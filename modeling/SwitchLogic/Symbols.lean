/-! # Signals, connectives and tokens

    A signal is named by one character.  The names `0` and `1` stand for
    the two rails, whose values no assignment can change; every other
    name is a variable.  The variables of a written expression are the
    lowercase letters.

    The six binary connectives are three families, each with a plain
    member and its complement: `and` and `nand`, `or` and `nor`, `xor`
    and `xnor`.  A family fixes both the function computed, up to
    complement, and how tightly the connective binds in a written
    expression.

    A token is a kind, the text it was read from, and the number of
    characters before it.  The kind drives the grammar.  The text
    matters in two places: an operand is named by its first character,
    and only a complement spelled `!` may stand after its operand. -/

-- ── Signals ────────────────────────────────────────────────────────

namespace SwitchLogic.Signal

/-- The rail a name stands for, if it is one of the two constants. -/
def constant? : Char → Option Bool
  | '0' => some false
  | '1' => some true
  | _ => none

/-- The name of the rail that carries a value. -/
def ofBool : Bool → Char
  | false => '0'
  | true => '1'

/-- The name of a rail stands for its value. -/
@[simp] theorem constant?_ofBool (v : Bool) : constant? (ofBool v) = some v := by
  cases v <;> rfl

/-- The variable letters, in increasing order. -/
def letters : List Char :=
  ['a', 'b', 'c', 'd', 'e', 'f', 'g', 'h', 'i', 'j', 'k', 'l', 'm',
   'n', 'o', 'p', 'q', 'r', 's', 't', 'u', 'v', 'w', 'x', 'y', 'z']

/-- Whether a character is a variable letter. -/
def isLetter (c : Char) : Bool := 'a' ≤ c && c ≤ 'z'

/-- Whether a character may be a leaf of a written expression. -/
def isWritable (c : Char) : Bool := isLetter c || (constant? c).isSome

/-- The variable letters, one by one. -/
theorem isLetter_iff_mem {c : Char} : isLetter c = true ↔ c ∈ letters := by
  constructor
  · intro h
    simp only [isLetter, Bool.and_eq_true, decide_eq_true_eq, Char.le_def,
      UInt32.le_iff_toNat_le] at h
    -- the letters are the 26 code points from `a` on
    have hall : ∀ i, i < 26 → Char.ofNat ('a'.toNat + i) ∈ letters := by decide
    have hoffset : 'a'.toNat + (c.toNat - 'a'.toNat) = c.toNat := Nat.add_sub_of_le h.1
    have hlt : c.toNat - 'a'.toNat < 26 := Nat.sub_lt_left_of_lt_add h.1 (Nat.lt_succ_of_le h.2)
    have hmem := hall _ hlt
    rwa [hoffset, Char.ofNat_toNat] at hmem
  · have hall : letters.all isLetter = true := by decide
    exact List.all_eq_true.mp hall c

/-- No other name stands for a rail. -/
theorem constant?_eq_some_iff {c : Char} {v : Bool} : constant? c = some v ↔ c = ofBool v := by
  constructor
  · intro h
    unfold constant? at h
    split at h
    · cases h
      rfl
    · cases h
      rfl
    · cases h
  · rintro rfl
    exact constant?_ofBool v

/-- What may be a leaf of a written expression, one by one. -/
theorem isWritable_iff_mem {c : Char} : isWritable c = true ↔ c ∈ '0' :: '1' :: letters := by
  rw [isWritable, Bool.or_eq_true, isLetter_iff_mem, Option.isSome_iff_exists]
  simp only [constant?_eq_some_iff, Bool.exists_bool, ofBool, List.mem_cons]
  constructor
  · rintro (h | rfl | rfl)
    · exact .inr (.inr h)
    · exact .inl rfl
    · exact .inr (.inl rfl)
  · rintro (rfl | rfl | h)
    · exact .inr (.inl rfl)
    · exact .inr (.inr rfl)
    · exact .inl h

/-- Letters in capitals, other characters unchanged. -/
def capital (c : Char) : Char := c.toUpper

end SwitchLogic.Signal

namespace SwitchLogic

-- ── Connectives ────────────────────────────────────────────────────

/-- The three families of binary connectives. -/
inductive Family where
  | conjunctive
  | exclusive
  | disjunctive
  deriving DecidableEq

/-- The function computed by the plain member of a family. -/
def Family.apply : Family → Bool → Bool → Bool
  | .conjunctive, a, b => a && b
  | .exclusive, a, b => a != b
  | .disjunctive, a, b => a || b

/-- How tightly the members of a family bind, loosest first. -/
def Family.rank : Family → Nat
  | .disjunctive => 1
  | .exclusive => 2
  | .conjunctive => 3

/-- A binary connective: a family, and whether its output is
    complemented. -/
structure Connective where
  family : Family
  inverting : Bool
  deriving DecidableEq

namespace Connective

@[match_pattern] abbrev and : Connective := ⟨.conjunctive, false⟩
@[match_pattern] abbrev nand : Connective := ⟨.conjunctive, true⟩
@[match_pattern] abbrev or : Connective := ⟨.disjunctive, false⟩
@[match_pattern] abbrev nor : Connective := ⟨.disjunctive, true⟩
@[match_pattern] abbrev xor : Connective := ⟨.exclusive, false⟩
@[match_pattern] abbrev xnor : Connective := ⟨.exclusive, true⟩

/-- The function a connective computes. -/
def apply (op : Connective) (a b : Bool) : Bool :=
  op.inverting ^^ op.family.apply a b

/-- The member of the same family without the output complement. -/
def plain (op : Connective) : Connective := { op with inverting := false }

/-- **Complemented connectives are complements.**  Every connective is
    its plain member, complemented when it is inverting. -/
theorem apply_eq_plain (op : Connective) (a b : Bool) :
    op.apply a b = (op.inverting ^^ op.plain.apply a b) := by
  simp [apply, plain]

/-- The keyword that writes a connective. -/
def keyword : Connective → List Char
  | .and => ['a', 'n', 'd']
  | .nand => ['n', 'a', 'n', 'd']
  | .or => ['o', 'r']
  | .nor => ['n', 'o', 'r']
  | .xor => ['x', 'o', 'r']
  | .xnor => ['x', 'n', 'o', 'r']

instance : ToString Connective := ⟨fun op => String.ofList op.keyword⟩

end Connective

-- ── Tokens ─────────────────────────────────────────────────────────

/-- What a token stands for. -/
inductive TokenKind where
  | opening
  | closing
  | complement
  | connective (op : Connective)
  | operand
  deriving DecidableEq

/-- A token with its text and its character position. -/
structure Token where
  kind : TokenKind
  text : List Char
  position : Nat
  deriving DecidableEq

/-- Whether a token is the sign `!`, which may also follow an operand. -/
def Token.isBang (t : Token) : Bool := t.kind = .complement && t.text = ['!']

end SwitchLogic
