import SwitchLogic.Error
import SwitchLogic.NameSet

/-! # Assignments and the value of a formula

    An assignment gives values to some signals.  The constants keep
    their own values whatever an assignment says about their names.

    The rows of a truth table are assignments too: row `i` over `n`
    columns gives every column one binary digit of `i`, the first column
    the most significant of the `n` digits.

    A formula has a value under every assignment that gives values to
    its variables.  Both operands of a connective are evaluated, the
    left one first, even where the left one decides; so an unassigned
    variable is never overlooked, and the leftmost one is reported. -/

namespace SwitchLogic

/-- Values of some signals.  Of two entries with one name, the one
    listed first counts. -/
structure Assignment where
  entries : List (Char × Bool)

namespace Assignment

/-- Gives a value to one more name, whatever it had before. -/
def assign (s : Assignment) (name : Char) (value : Bool) : Assignment :=
  ⟨(name, value) :: s.entries⟩

/-- The value given to a name. -/
def get? (s : Assignment) (name : Char) : Option Bool := s.entries.lookup name

/-- The value of a signal: that of the rail for a constant, otherwise
    the one that the assignment gives. -/
def value (s : Assignment) (name : Char) : Except Error Bool :=
  match Signal.constant? name with
  | some v => .ok v
  | none =>
      match s.get? name with
      | some v => .ok v
      | none => .error (.unassignedVariable name)

/-- The assignment of a list of columns.  Of two columns with one name,
    the later counts. -/
def ofColumns (columns : List (Char × Bool)) : Assignment := ⟨columns.reverse⟩

/-- The digits of row `row` over `n` columns, most significant first. -/
def rowInputs (n row : Nat) : List Bool :=
  (List.range n).map fun j => row.testBit (n - 1 - j)

/-- The assignment of a row over the given columns. -/
def ofRow (columns : List Char) (row : Nat) : Assignment :=
  ofColumns (columns.zip (rowInputs columns.length row))

/-- The names with their values, in increasing order of the names. -/
def toList (s : Assignment) : List (Char × Bool) :=
  (NameSet.ofList (s.entries.map (·.1))).toList.filterMap fun name =>
    (s.get? name).map fun v => (name, v)

/-- A name has the value that it was given last. -/
@[simp] theorem get?_assign_self (s : Assignment) (c : Char) (v : Bool) :
    (s.assign c v).get? c = some v := by
  simp [assign, get?]

/-- The other names keep their values. -/
theorem get?_assign_of_ne (s : Assignment) {c d : Char} (v : Bool) (h : d ≠ c) :
    (s.assign c v).get? d = s.get? d := by
  have hne : (d == c) = false := beq_eq_false_iff_ne.mpr h
  rw [get?, assign, List.lookup_cons, hne]
  rfl

end Assignment

end SwitchLogic

-- ── The value of a formula ─────────────────────────────────────────

namespace SwitchLogic.Formula

/-- The value of a formula under an assignment. -/
def evaluate (s : Assignment) : Formula → Except Error Bool
  | .leaf c => s.value c
  | .not a =>
      match a.evaluate s with
      | .error e => .error e
      | .ok v => .ok (!v)
  | .binary op a b =>
      match a.evaluate s with
      | .error e => .error e
      | .ok v =>
          match b.evaluate s with
          | .error e => .error e
          | .ok w => .ok (op.apply v w)

end SwitchLogic.Formula
