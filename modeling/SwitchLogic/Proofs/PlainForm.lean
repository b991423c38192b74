import SwitchLogic.Circuit.Basic
import SwitchLogic.Proofs.Expansion

/-! # Inverting connectives are notation

    A `nand` is a complemented `and`, and so for the other two inverting
    connectives.  The plain form of a formula writes all of them out, at
    any depth.  Evaluation, the seed of a circuit, expansion with the
    names that it records, and the count of its leaves each treat the
    inverting connectives in a way of their own; none of them can tell a
    formula from its plain form.

    All of these but the seed read a formula from its parts, so it is
    enough that they cannot tell one inverting connective from the
    complement of its plain member: `eq_plainForm`. -/

namespace SwitchLogic

/-- A plain connective is its own plain member. -/
theorem Connective.plain_of_not_inverting {op : Connective} (h : op.inverting = false) :
    op.plain = op := by
  obtain ⟨family, inverting⟩ := op
  cases h
  rfl

namespace Formula

/-- A connective between two formulas, with an inverting connective
    written as the complement of its plain member. -/
def writtenOut (op : Connective) (a b : Formula) : Formula :=
  if op.inverting then .not (.binary op.plain a b) else .binary op.plain a b

/-- The formula with every inverting connective written as the
    complement of its plain member. -/
def plainForm : Formula → Formula
  | .leaf c => .leaf c
  | .not a => .not a.plainForm
  | .binary op a b => writtenOut op a.plainForm b.plainForm

theorem writtenOut_of_inverting {op : Connective} (h : op.inverting = true) (a b : Formula) :
    writtenOut op a b = .not (.binary op.plain a b) := if_pos h

theorem writtenOut_of_not_inverting {op : Connective} (h : op.inverting = false)
    (a b : Formula) : writtenOut op a b = .binary op a b := by
  rw [writtenOut, h, Connective.plain_of_not_inverting h]
  rfl

/-- **A reading that goes by parts cannot tell the plain form**, if it
    cannot tell an inverting connective from the complement of its plain
    member. -/
theorem eq_plainForm {α : Type} {f : Formula → α}
    (complement : ∀ {a a'}, f a = f a' → f (.not a) = f (.not a'))
    (connective : ∀ op {a a' b b'}, f a = f a' → f b = f b' →
      f (.binary op a b) = f (.binary op a' b'))
    (inverting : ∀ op a b, op.inverting = true →
      f (.not (.binary op.plain a b)) = f (.binary op a b))
    (e : Formula) : f e.plainForm = f e := by
  induction e with
  | leaf c => rfl
  | not a ih => exact complement ih
  | binary op a b iha ihb =>
      rw [plainForm]
      cases h : op.inverting with
      | false =>
          rw [writtenOut_of_not_inverting h]
          exact connective op iha ihb
      | true =>
          rw [writtenOut_of_inverting h, inverting op _ _ h]
          exact connective op iha ihb

-- ── Readings of a formula ──────────────────────────────────────────

/-- The plain form has the same leaves. -/
theorem leaves_plainForm (e : Formula) : e.plainForm.leaves = e.leaves := by
  refine eq_plainForm (f := leaves) (fun h => h) (fun op _ _ _ _ ha hb => ?_)
    (fun op a b _ => rfl) e
  rw [leaves, leaves, ha, hb]

/-- The plain form has the same value, or fails in the same way. -/
theorem evaluate_plainForm (e : Formula) (s : Assignment) :
    e.plainForm.evaluate s = e.evaluate s := by
  refine eq_plainForm (f := evaluate s) (fun h => ?_) (fun op _ _ _ _ ha hb => ?_)
    (fun op a b h => ?_) e
  · rw [evaluate_not, evaluate_not, h]
  · rw [evaluate_binary, evaluate_binary, ha, hb]
  · rw [evaluate_not, evaluate_binary, evaluate_binary, map_combine]
    refine combine_congr (fun v w => ?_) _ _
    rw [Connective.apply_eq_plain op, h, Bool.true_xor]

/-- The complement in front of the plain member turns the polarity as
    the inversion of the connective did. -/
theorem expandUnder_plainForm (e : Formula) (negated : Bool) :
    e.plainForm.expandUnder negated = e.expandUnder negated := by
  refine congrFun (eq_plainForm (f := fun e n => e.expandUnder n) (fun h => ?_)
    (fun op _ _ _ _ ha hb => ?_) (fun op a b h => ?_) e) negated
  · funext n
    exact congrFun h (!n)
  · funext n
    simp only [expandUnder, congrFun ha, congrFun hb]
  · funext n
    simp only [expandUnder, Connective.plain, h, Bool.xor_false, Bool.xor_true]

/-- The names are recorded in the same order, so even on the way no set
    differs. -/
theorem recordComplements_plainForm (e : Formula) (negated : Bool) (names : NameSet) :
    e.plainForm.recordComplements negated names = e.recordComplements negated names := by
  refine congrFun (congrFun (eq_plainForm (f := fun e n => e.recordComplements n) (fun h => ?_)
    (fun op _ _ _ _ ha hb => ?_) (fun op a b h => ?_) e) negated) names
  · funext n
    exact congrFun h (!n)
  · funext n names
    simp only [recordComplements, congrFun ha, congrFun hb]
  · funext n names
    simp only [recordComplements, Connective.plain, h, Bool.xor_false, Bool.xor_true]

/-- The counts of both polarities change places twice. -/
theorem leafCounts_plainForm (e : Formula) : e.plainForm.leafCounts = e.leafCounts := by
  refine eq_plainForm (f := leafCounts) (fun h => ?_) (fun op _ _ _ _ ha hb => ?_)
    (fun op a b h => ?_) e
  · rw [leafCounts, leafCounts, h]
  · rw [leafCounts, leafCounts, ha, hb]
  · rw [leafCounts, leafCounts, leafCounts, h]
    rfl

/-- **The seed of the plain form is the plain form of the seed**, behind
    the same inverter: the complement that is taken off is the inversion
    that was written out. -/
theorem seed_plainForm (e : Formula) : e.plainForm.seed = (e.seed.1.plainForm, e.seed.2) := by
  cases e with
  | leaf c => rfl
  | not a => rfl
  | binary op a b =>
      rw [plainForm, seed]
      cases h : op.inverting with
      | false =>
          rw [writtenOut_of_not_inverting h, seed, h]
          simp only [Bool.false_eq_true, if_false, plainForm, writtenOut_of_not_inverting h]
      | true =>
          rw [writtenOut_of_inverting h, seed]
          simp only [if_true, plainForm]
          rfl

end Formula

/-- **Inverting connectives are only notation.**  A formula and its plain
    form are synthesized alike, be it as a circuit or as a refusal for
    the size, and have the same outcome under every assignment. -/
theorem Circuit.synthesize_plainForm (e : Formula) (maxDevices : Nat) (s : Assignment) :
    synthesize e.plainForm maxDevices = synthesize e maxDevices ∧
      e.plainForm.evaluate s = e.evaluate s := by
  have hsize : e.seed.1.plainForm.expandedSize = e.seed.1.expandedSize :=
    congrArg Prod.fst (Formula.leafCounts_plainForm _)
  have hcore : e.seed.1.plainForm.expand = e.seed.1.expand :=
    Formula.expandUnder_plainForm _ false
  have hinverted : e.seed.1.plainForm.invertedInputs = e.seed.1.invertedInputs :=
    Formula.recordComplements_plainForm _ false .empty
  refine ⟨?_, e.evaluate_plainForm s⟩
  simp only [synthesize, Formula.seed_plainForm]
  rw [hsize, hcore, hinverted]

-- one inverting connective is taken off for the stage, the other one turns the polarity
example : Circuit.synthesize (.not (.or (.leaf 'a') (.not (.and (.leaf 'b') (.leaf '1'))))) 3
    = Circuit.synthesize (.nor (.leaf 'a') (.nand (.leaf 'b') (.leaf '1'))) 3 := rfl

end SwitchLogic
