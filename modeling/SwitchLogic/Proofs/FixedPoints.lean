import Mathlib.Data.List.Sort
import SwitchLogic.Proofs.ExpandedForm

/-! # Expanding twice

    A formula in expanded form has nothing left to expand.  Its
    complements stand over variables, which keep them, and its
    connectives are plain conjunctions and disjunctions, which hand the
    positive polarity down to both operands.  Whatever is not in expanded
    form is changed, because the result of expansion always is.

    An expansion expanded once more therefore records the same names
    again: the names below a complement of what was built. -/

namespace SwitchLogic

/-- Sets with the same members are equal. -/
theorem NameSet.eq_of_mem_iff {s t : NameSet} (h : ∀ x, x ∈ s ↔ x ∈ t) : s = t :=
  eq_of_toList_eq (s.increasing.eq_of_mem_iff t.increasing h)

namespace Formula

-- ── Fixed points ───────────────────────────────────────────────────

/-- **Nothing is left to expand** in a formula in expanded form. -/
theorem expand_of_isExpanded {e : Formula} (h : e.isExpanded = true) : e.expand = e := by
  refine isExpanded_induction (P := fun e => e.expand = e) (fun c => rfl) (fun c hc => ?_)
    (fun a b ha hb => ?_) (fun a b ha hb => ?_) h
  · show complementLeaf c = .not (.leaf c)
    rw [complementLeaf, hc]
  · show Formula.and a.expand b.expand = .and a b
    rw [ha, hb]
  · show Formula.or a.expand b.expand = .or a b
    rw [ha, hb]

/-- Expansions are fixed points, in either polarity. -/
theorem expand_expandUnder (e : Formula) (negated : Bool) :
    (e.expandUnder negated).expand = e.expandUnder negated :=
  expand_of_isExpanded (isExpanded_expandUnder e negated)

/-- What expansion leaves as it is, is in expanded form. -/
theorem isExpanded_of_expand_eq {e : Formula} (h : e.expand = e) : e.isExpanded = true := by
  rw [← h]
  exact isExpanded_expandUnder e false

-- ── What is recorded ───────────────────────────────────────────────

/-- The leaves, left to right, that stand anywhere below a complement. -/
def complementedLeaves : Formula → List Char
  | .leaf _ => []
  | .not a => a.leaves
  | .binary _ a b => a.complementedLeaves ++ b.complementedLeaves

/-- In expanded form a complement stands directly over its leaf. -/
theorem mem_complementedLeaves {e : Formula} (he : e.isExpanded = true) {x : Char} :
    x ∈ e.complementedLeaves ↔ (x, true) ∈ e.literals := by
  refine isExpanded_induction (P := fun e => x ∈ e.complementedLeaves ↔ (x, true) ∈ e.literals)
    (fun c => ?_) (fun c _ => ?_) (fun a b ha hb => ?_) (fun a b ha hb => ?_) he
  · simp [complementedLeaves, literals]
  · simp [complementedLeaves, leaves, literals]
  · rw [complementedLeaves, literals_binary, List.mem_append, List.mem_append, ha, hb]
  · rw [complementedLeaves, literals_binary, List.mem_append, List.mem_append, ha, hb]

/-- An expansion records what its formula recorded, from any set on. -/
theorem recordComplements_expandUnder (e : Formula) (negated : Bool) (names : NameSet) :
    (e.expandUnder negated).recordComplements false names = e.recordComplements negated names := by
  refine NameSet.eq_of_mem_iff fun x => ?_
  have hagain : (e.expandUnder negated).expandUnder false = e.expandUnder negated :=
    expand_expandUnder e negated
  rw [mem_recordComplements, hagain, mem_recordComplements]

/-- **Expansion is a projection onto the expanded form.**  The formulas
    that it leaves as they are, are those in expanded form; so a second
    expansion changes nothing.  Both record the same names, and these are
    the names below a complement of the expansion. -/
theorem expand_eq_self_iff_isExpanded (e : Formula) :
    (e.expand = e ↔ e.isExpanded = true) ∧
      e.expand.expand = e.expand ∧
      e.expand.invertedInputs = e.invertedInputs ∧
      ∀ x, x ∈ e.invertedInputs ↔ x ∈ e.expand.complementedLeaves := by
  have hform : e.expand.isExpanded = true := isExpanded_expandUnder e false
  refine ⟨⟨isExpanded_of_expand_eq, expand_of_isExpanded⟩, expand_of_isExpanded hform,
    recordComplements_expandUnder e false .empty, fun x => ?_⟩
  rw [mem_complementedLeaves hform, mem_invertedInputs]

-- a complemented constant is no literal: it is changed, and nothing is recorded for it
example :
    let e := Formula.or (.not (.leaf '0')) (.not (.leaf 'a'))
    e.isExpanded = false ∧ e.expand = .or (.leaf '1') (.not (.leaf 'a')) ∧
      e.expand.invertedInputs.toList = ['a'] := by decide

end Formula

end SwitchLogic
