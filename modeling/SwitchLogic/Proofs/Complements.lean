import Mathlib.Logic.Basic
import SwitchLogic.Proofs.ExpandedForm

/-! # Which inputs are inverted

    The inputs that expansion records can be read off the formula without
    expanding it.  A complement, a `nand` or a `nor` above a leaf turns
    it over, so an odd number of them leaves it complemented.  An
    exclusive connective above a leaf settles the matter, since it
    writes the leaf once in each polarity, whatever else stands above or
    in between. -/

namespace SwitchLogic

/-- A leaf of a formula with what stands above it. -/
structure Occurrence where
  name : Char
  /-- The exclusive connectives above the leaf. -/
  exclusives : Nat
  /-- The complements above the leaf and the inverting connectives that
      are not exclusive. -/
  inversions : Nat

namespace Occurrence

/-- The leaf with one more complement above it. -/
def complemented (o : Occurrence) : Occurrence := { o with inversions := o.inversions + 1 }

/-- The leaf with one more connective above it. -/
def below (op : Connective) (o : Occurrence) : Occurrence :=
  if op.family = .exclusive then { o with exclusives := o.exclusives + 1 }
  else if op.inverting then o.complemented
  else o

/-- Whether the expansion of a formula, or of its complement if
    `negated`, writes the leaf complemented. -/
def Turned (negated : Bool) (o : Occurrence) : Prop :=
  0 < o.exclusives ∨ (o.inversions + negated.toNat) % 2 = 1

variable {op : Connective} {o : Occurrence} {negated : Bool}

/-- A connective above a leaf does not rename it. -/
theorem name_below : (o.below op).name = o.name := by
  unfold below
  split
  · rfl
  · split <;> rfl

/-- A complement above a leaf turns it once more. -/
theorem turned_complemented : o.complemented.Turned negated ↔ o.Turned (!negated) := by
  cases negated with
  | false => exact Iff.rfl
  | true =>
      simp only [Turned, complemented, Bool.toNat_true, Bool.not_true, Bool.toNat_false]
      omega

/-- Below an exclusive connective every leaf is complemented once. -/
theorem turned_below_exclusive (h : op.family = .exclusive) : (o.below op).Turned negated := by
  rw [below, if_pos h]
  exact .inl (Nat.succ_pos _)

/-- Any other connective turns its leaves as its output complement does. -/
theorem turned_below (h : op.family ≠ .exclusive) :
    (o.below op).Turned negated ↔ o.Turned (negated ^^ op.inverting) := by
  rw [below, if_neg h]
  cases op.inverting with
  | false => rw [Bool.xor_false]; rfl
  | true => rw [Bool.xor_true]; exact turned_complemented

/-- Every leaf is complemented in one of the two polarities. -/
theorem turned_or_turned (o : Occurrence) : o.Turned false ∨ o.Turned true := by
  simp only [Turned, Bool.toNat_false, Bool.toNat_true]
  omega

end Occurrence

namespace Formula

/-- The leaves of a formula, left to right, with what stands above them. -/
def occurrences : Formula → List Occurrence
  | .leaf c => [⟨c, 0, 0⟩]
  | .not a => a.occurrences.map Occurrence.complemented
  | .binary op a b => (a.occurrences ++ b.occurrences).map (Occurrence.below op)

/-- Whether some leaf of a name is complemented in the expansion of a
    formula, or of its complement if `negated`. -/
def Turns (x : Char) (negated : Bool) (e : Formula) : Prop :=
  ∃ o ∈ e.occurrences, o.name = x ∧ o.Turned negated

variable {x c : Char} {negated : Bool} {op : Connective} {a b : Formula}

theorem turns_leaf : Turns x negated (.leaf c) ↔ c = x ∧ negated = true := by
  cases negated <;> simp [Turns, occurrences, Occurrence.Turned]

/-- Below a complement the polarity is the opposite one. -/
theorem turns_not : Turns x negated (.not a) ↔ Turns x (!negated) a := by
  simp only [Turns, occurrences, List.mem_map, exists_exists_and_eq_and,
    Occurrence.turned_complemented]
  rfl

/-- The leaves below a connective are those of both operands, turned by it
    as well. -/
theorem turns_binary_iff : Turns x negated (.binary op a b) ↔
    ∃ o ∈ a.occurrences ++ b.occurrences, o.name = x ∧ (o.below op).Turned negated := by
  simp only [Turns, occurrences, List.mem_map, exists_exists_and_eq_and, Occurrence.name_below]

/-- A connective that is not exclusive hands its polarity down. -/
theorem turns_binary (h : op.family ≠ .exclusive) : Turns x negated (.binary op a b) ↔
    Turns x (negated ^^ op.inverting) a ∨ Turns x (negated ^^ op.inverting) b := by
  simp only [turns_binary_iff, Occurrence.turned_below h, List.mem_append, or_and_right,
    exists_or]
  rfl

/-- An exclusive connective asks for both operands in both polarities. -/
theorem turns_exclusive (h : op.family = .exclusive) : Turns x negated (.binary op a b) ↔
    (Turns x false a ∨ Turns x true a) ∨ Turns x false b ∨ Turns x true b := by
  have hboth : ∀ e, (∃ o ∈ occurrences e, o.name = x) ↔ Turns x false e ∨ Turns x true e := by
    intro e
    simp only [Turns, ← exists_or, ← and_or_left, Occurrence.turned_or_turned, and_true]
  simp only [turns_binary_iff, Occurrence.turned_below_exclusive h, and_true, List.mem_append,
    or_and_right, exists_or, hboth]

-- ── The complemented literals of the expansion ─────────────────────

/-- A complemented leaf keeps its complement, unless it is a rail. -/
theorem mem_literals_complementLeaf :
    (x, true) ∈ (complementLeaf c).literals ↔ Signal.constant? x = none ∧ c = x := by
  cases h : Signal.constant? c with
  | some v =>
      rw [literals_complementLeaf_of_constant h]
      refine iff_of_false (by simp) ?_
      rintro ⟨hvariable, rfl⟩
      cases h.symm.trans hvariable
  | none =>
      rw [literals_complementLeaf_of_variable h, List.mem_singleton]
      constructor
      · intro heq
        cases heq
        exact ⟨h, rfl⟩
      · rintro ⟨-, rfl⟩
        rfl

/-- The expansion of a connective that is not exclusive has the literals
    of its operands, in the polarity that reaches them. -/
theorem literals_expandUnder_binary (h : op.family ≠ .exclusive) :
    ((binary op a b).expandUnder negated).literals
      = (a.expandUnder (negated ^^ op.inverting)).literals
        ++ (b.expandUnder (negated ^^ op.inverting)).literals := by
  rw [expandUnder]
  cases hf : op.family with
  | exclusive => exact absurd hf h
  | conjunctive => cases (negated ^^ op.inverting) <;> exact literals_binary _ _ _
  | disjunctive => cases (negated ^^ op.inverting) <;> exact literals_binary _ _ _

/-- **A name stands complemented in the expansion** exactly when it is
    no constant and one of its leaves is turned over. -/
theorem mem_literals_expandUnder (e : Formula) :
    (x, true) ∈ (e.expandUnder negated).literals ↔
      Signal.constant? x = none ∧ Turns x negated e := by
  induction e generalizing negated with
  | leaf c =>
      rw [turns_leaf]
      cases negated with
      | false => simp [expandUnder, literals]
      | true => simpa [expandUnder] using mem_literals_complementLeaf
  | not a ih =>
      rw [turns_not]
      exact ih
  | binary op a b iha ihb =>
      by_cases hf : op.family = .exclusive
      · -- the two polarities write the same four operands in another order
        rw [turns_exclusive hf]
        simp only [expandUnder, hf]
        cases (negated ^^ op.inverting) with
        | false =>
            simp only [literals_binary, List.mem_append, iha, ihb, ← and_or_left]
            rw [or_or_or_comm, or_comm (a := Turns x true b)]
        | true =>
            simp only [literals_binary, List.mem_append, iha, ihb, ← and_or_left]
            rw [or_or_or_comm]
      · rw [turns_binary hf]
        rw [literals_expandUnder_binary hf, List.mem_append, iha, ihb, ← and_or_left]

/-- **Which inputs are inverted.**  Expansion adds to a set exactly the
    names, constants apart, of which some leaf stands below an exclusive
    connective, or below an odd number of complements, `nand`s and
    `nor`s; and it takes no name out of the set. -/
theorem mem_recordComplements_iff_occurrence (e : Formula) (names : NameSet) (x : Char) :
    x ∈ e.recordComplements false names ↔ x ∈ names ∨ Signal.constant? x = none ∧
      ∃ o ∈ e.occurrences, o.name = x ∧ (0 < o.exclusives ∨ o.inversions % 2 = 1) := by
  rw [mem_recordComplements, mem_literals_expandUnder]
  rfl

-- two inversions stand above `b`, and `1` is a constant
example :
    let e := nand (.leaf 'a') (.not (.and (.leaf 'b') (.xor (.leaf 'c') (.leaf '1'))))
    e.invertedInputs.toList = ['a', 'c'] := by decide

end Formula

end SwitchLogic
