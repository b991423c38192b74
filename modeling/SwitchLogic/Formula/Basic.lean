import SwitchLogic.Symbols

/-! # Formulas

    A formula is a tree of complements and binary connectives over
    signal names.  Leaves may carry any character: the constants are the
    leaves `0` and `1`, and only the lowercase letters count among the
    formula's variables. -/

namespace SwitchLogic

/-- A boolean formula over named signals. -/
inductive Formula where
  | leaf (name : Char)
  | not (operand : Formula)
  | binary (op : Connective) (left right : Formula)
  deriving DecidableEq

namespace Formula

abbrev and (a b : Formula) : Formula := .binary .and a b
abbrev nand (a b : Formula) : Formula := .binary .nand a b
abbrev or (a b : Formula) : Formula := .binary .or a b
abbrev nor (a b : Formula) : Formula := .binary .nor a b
abbrev xor (a b : Formula) : Formula := .binary .xor a b
abbrev xnor (a b : Formula) : Formula := .binary .xnor a b

/-- The leaf of a rail. -/
def constant (value : Bool) : Formula := .leaf (Signal.ofBool value)

/-- The value of a formula that is nothing but a constant leaf. -/
def constant? : Formula → Option Bool
  | .leaf c => Signal.constant? c
  | _ => none

/-- Names of the leaves, left to right. -/
def leaves : Formula → List Char
  | .leaf c => [c]
  | .not a => a.leaves
  | .binary _ a b => a.leaves ++ b.leaves

/-- The distinct letters among the leaves, in increasing order. -/
def letters (e : Formula) : List Char :=
  let names := e.leaves
  Signal.letters.filter (names.contains ·)

/-- Number of nodes, leaves included. -/
def size : Formula → Nat
  | .leaf _ => 1
  | .not a => 1 + a.size
  | .binary _ a b => 1 + a.size + b.size

/-- Number of nodes on the longest path from the root to a leaf. -/
def depth : Formula → Nat
  | .leaf _ => 1
  | .not a => 1 + a.depth
  | .binary _ a b => 1 + max a.depth b.depth

/-- The letters of a formula are those among its leaves. -/
theorem mem_letters {e : Formula} {c : Char} :
    c ∈ e.letters ↔ c ∈ Signal.letters ∧ c ∈ e.leaves := by
  simp [letters]

end Formula

end SwitchLogic
