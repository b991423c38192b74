import SwitchLogic.Formula.Expansion
import SwitchLogic.Evaluation
import SwitchLogic.Proofs.Outcome

/-! # Expansion keeps the meaning

    Pushing complements to the leaves changes neither the value of a
    formula nor the failure that is reported where a variable has no
    value.  Both follow from one law for each polarity.

    The outcome of a connective is a function of the outcomes of its
    operands, with the left failure first.  An expanded exclusive
    connective evaluates both operands twice, and combining the same two
    outcomes again adds no failure to them. -/

namespace SwitchLogic

namespace Formula

-- ── The value of a node from the values of its operands ────────────

/-- The value of a complement is the complement, if the operand has a
    value. -/
theorem evaluate_not (s : Assignment) (a : Formula) :
    (Formula.not a).evaluate s = (a.evaluate s).map (!·) := by
  simp only [evaluate]
  cases a.evaluate s <;> rfl

/-- The value of a connective is that of its operands combined; of two
    failures the left one counts. -/
theorem evaluate_binary (s : Assignment) (op : Connective) (a b : Formula) :
    (binary op a b).evaluate s = combine op.apply (a.evaluate s) (b.evaluate s) := by
  simp only [evaluate]
  cases a.evaluate s with
  | error e => rfl
  | ok v => cases b.evaluate s <;> rfl

-- ── The value of the expansion ─────────────────────────────────────

/-- A rail has its own value under every assignment. -/
theorem value_of_constant? {s : Assignment} {c : Char} {v : Bool}
    (h : Signal.constant? c = some v) : s.value c = .ok v := by
  simp [Assignment.value, h]

/-- A complemented leaf has the complement of its value, whether it is a
    variable under a complement or the other rail. -/
theorem evaluate_complementLeaf (s : Assignment) (c : Char) :
    (complementLeaf c).evaluate s = (s.value c).map (!·) := by
  unfold complementLeaf
  cases h : Signal.constant? c with
  | none => exact evaluate_not s (leaf c)
  | some v =>
      have hc : s.value (Signal.ofBool (!v)) = .ok (!v) :=
        value_of_constant? (Signal.constant?_ofBool (!v))
      rw [value_of_constant? h]
      exact hc

/-- **Expansion keeps outcomes.**  The expansion of a formula has the
    outcome of the formula, and the expansion of its complement the
    complement of that outcome, failures included. -/
theorem evaluate_expandUnder (s : Assignment) (e : Formula) (negated : Bool) :
    (e.expandUnder negated).evaluate s = (e.evaluate s).map (negated ^^ ·) := by
  induction e generalizing negated with
  | leaf c =>
      cases negated with
      | false =>
          show s.value c = (s.value c).map (false ^^ ·)
          cases s.value c with
          | error e => rfl
          | ok v => simp [Except.map]
      | true =>
          show (complementLeaf c).evaluate s = (s.value c).map (true ^^ ·)
          rw [evaluate_complementLeaf]
          simp only [Bool.true_bne]
  | not a ih =>
      simp only [expandUnder, ih, evaluate_not]
      cases a.evaluate s <;> simp [Except.map]
  | binary op a b iha ihb =>
      obtain ⟨family, inverting⟩ := op
      -- only the family and the polarity that reaches the operands matter
      have houter : ∀ v w, (negated ^^ Connective.apply ⟨family, inverting⟩ v w)
          = ((negated ^^ inverting) ^^ family.apply v w) := by
        intro v w
        simp [Connective.apply]
      rw [evaluate_binary, map_combine, combine_congr houter]
      simp only [expandUnder]
      generalize (negated ^^ inverting) = polarity
      cases family <;> cases polarity <;>
        simp only [Formula.and, Formula.or, evaluate_binary, iha, ihb, combine_map,
          combine_combine] <;>
        exact combine_congr (by decide) _ _

end Formula

end SwitchLogic
