import SwitchLogic.Proofs.Extension

/-! # The expanded form

    An expansion is built by plain conjunctions and disjunctions from
    leaves of the formula and from complements of such leaves, whatever
    the polarity.  So it is in expanded form, it names no other variable
    than the formula, and with the law on outcomes it means the same.

    The set of names that is recorded on the way holds exactly the
    leaves that stand complemented in the expansion. -/

namespace SwitchLogic.Formula

-- ── What expansion builds ──────────────────────────────────────────

/-- **Induction on expansions.**  A property of leaves and complemented
    leaves that plain connectives keep is a property of every expansion. -/
theorem expandUnder_induction {P : Formula → Prop} {e : Formula}
    (direct : ∀ c ∈ e.leaves, P (.leaf c)) (complement : ∀ c ∈ e.leaves, P (complementLeaf c))
    (conjunction : ∀ a b, P a → P b → P (.and a b))
    (disjunction : ∀ a b, P a → P b → P (.or a b)) (negated : Bool) :
    P (e.expandUnder negated) := by
  induction e generalizing negated with
  | leaf c =>
      have hc : c ∈ (leaf c).leaves := List.mem_singleton_self c
      cases negated with
      | false => exact direct c hc
      | true => exact complement c hc
  | not a ih => exact ih direct complement (!negated)
  | binary op a b iha ihb =>
      have ha := iha (fun c hc => direct c (List.mem_append_left _ hc))
        fun c hc => complement c (List.mem_append_left _ hc)
      have hb := ihb (fun c hc => direct c (List.mem_append_right _ hc))
        fun c hc => complement c (List.mem_append_right _ hc)
      -- three families in two polarities; only the exclusive ones use both forms of an operand
      simp only [expandUnder]
      split
      · exact conjunction _ _ (ha false) (hb false)
      · exact disjunction _ _ (ha true) (hb true)
      · exact disjunction _ _ (ha false) (hb false)
      · exact conjunction _ _ (ha true) (hb true)
      · exact disjunction _ _ (conjunction _ _ (ha false) (hb true))
          (conjunction _ _ (ha true) (hb false))
      · exact disjunction _ _ (conjunction _ _ (ha false) (hb false))
          (conjunction _ _ (ha true) (hb true))

/-- **Induction on the expanded form.**  A property of literals that
    plain connectives keep is a property of every formula in expanded
    form. -/
theorem isExpanded_induction {P : Formula → Prop} (direct : ∀ c, P (.leaf c))
    (complemented : ∀ c, Signal.constant? c = none → P (.not (.leaf c)))
    (conjunction : ∀ a b, P a → P b → P (.and a b))
    (disjunction : ∀ a b, P a → P b → P (.or a b)) {e : Formula} (h : e.isExpanded = true) :
    P e := by
  fun_induction isExpanded e with
  | case1 c => exact direct c
  | case2 c => exact complemented c (Option.isNone_iff_eq_none.mp h)
  | case3 a _ => cases h
  | case4 a b iha ihb =>
      rw [Bool.and_eq_true] at h
      exact conjunction a b (iha h.1) (ihb h.2)
  | case5 a b iha ihb =>
      rw [Bool.and_eq_true] at h
      exact disjunction a b (iha h.1) (ihb h.2)
  | case6 op a b _ _ => cases h

/-- A complemented leaf is in expanded form. -/
theorem isExpanded_complementLeaf (c : Char) : (complementLeaf c).isExpanded = true := by
  unfold complementLeaf
  cases h : Signal.constant? c with
  | some v => rfl
  | none => rw [isExpanded, h]; rfl

/-- **Expansion reaches its form**, for either polarity. -/
theorem isExpanded_expandUnder (e : Formula) (negated : Bool) :
    (e.expandUnder negated).isExpanded = true := by
  refine expandUnder_induction (P := fun f => f.isExpanded = true) (fun c _ => rfl)
    (fun c _ => isExpanded_complementLeaf c) (fun a b ha hb => ?_) (fun a b ha hb => ?_) negated
  · rw [isExpanded, ha, hb]; rfl
  · rw [isExpanded, ha, hb]; rfl

/-- **Expansion is a rewriting of the same function.**  The expansion has
    the outcome of the formula, which is a value or a report of the
    leftmost leaf without one, and it is in expanded form. -/
theorem evaluate_expand (e : Formula) (s : Assignment) :
    e.expand.evaluate s = e.evaluate s ∧
      ((∃ v, e.evaluate s = .ok v) ∨
        ∃ x, e.leaves.find? s.lacks = some x ∧
          e.evaluate s = .error (.unassignedVariable x)) ∧
      e.expand.isExpanded = true := by
  refine ⟨?_, evaluate_cases s e, isExpanded_expandUnder e false⟩
  rw [expand, evaluate_expandUnder]
  cases e.evaluate s with
  | error err => rfl
  | ok v => simp [Except.map]

-- ── Literals ───────────────────────────────────────────────────────

/-- The leaves, left to right, each with whether a complement stands
    directly over it. -/
def literals : Formula → List (Char × Bool)
  | .leaf c => [(c, false)]
  | .not (.leaf c) => [(c, true)]
  | .not a => a.literals
  | .binary _ a b => a.literals ++ b.literals

theorem literals_binary (op : Connective) (a b : Formula) :
    (binary op a b).literals = a.literals ++ b.literals := by
  rw [literals]

/-- Every leaf is one literal, complemented or not. -/
theorem map_fst_literals (e : Formula) : e.literals.map Prod.fst = e.leaves := by
  fun_induction literals e with
  | case1 c => rfl
  | case2 c => rfl
  | case3 a _ ih => exact ih
  | case4 op a b iha ihb => rw [List.map_append, iha, ihb, leaves]

/-- In expanded form no constant stands complemented. -/
theorem constant?_of_mem_literals {e : Formula} (he : e.isExpanded = true) {x : Char}
    (hx : (x, true) ∈ e.literals) : Signal.constant? x = none := by
  revert hx
  refine isExpanded_induction (P := fun e => (x, true) ∈ e.literals → Signal.constant? x = none)
    (fun c hx => ?_) (fun c hc hx => ?_) (fun a b ha hb hx => ?_) (fun a b ha hb hx => ?_) he
  · simp [literals] at hx
  · obtain rfl : x = c := by simpa [literals] using hx
    exact hc
  · rw [literals_binary, List.mem_append] at hx
    exact hx.elim ha hb
  · rw [literals_binary, List.mem_append] at hx
    exact hx.elim ha hb

/-- A complemented rail is the other rail, without a complement. -/
theorem literals_complementLeaf_of_constant {c : Char} {v : Bool}
    (h : Signal.constant? c = some v) :
    (complementLeaf c).literals = [(Signal.ofBool (!v), false)] := by
  rw [complementLeaf, h]
  rfl

/-- A complemented variable is a literal with a complement. -/
theorem literals_complementLeaf_of_variable {c : Char} (h : Signal.constant? c = none) :
    (complementLeaf c).literals = [(c, true)] := by
  rw [complementLeaf, h, literals]

/-- The variables of an expansion are leaves of the formula. -/
theorem mem_leaves_of_mem_literals {e : Formula} {negated : Bool} {x : Char} {b : Bool}
    (hx : (x, b) ∈ (e.expandUnder negated).literals) (hvar : Signal.constant? x = none) :
    x ∈ e.leaves := by
  revert hx
  refine expandUnder_induction (P := fun f => (x, b) ∈ f.literals → x ∈ e.leaves)
    (fun c hc hx => ?_) (fun c hc hx => ?_) (fun f g hf hg hx => ?_)
    (fun f g hf hg hx => ?_) negated
  · rw [literals, List.mem_singleton] at hx
    exact (Prod.mk.inj hx).1 ▸ hc
  · cases hconstant : Signal.constant? c with
    | some v =>
        rw [literals_complementLeaf_of_constant hconstant, List.mem_singleton] at hx
        rw [(Prod.mk.inj hx).1, Signal.constant?_ofBool] at hvar
        cases hvar
    | none =>
        rw [literals_complementLeaf_of_variable hconstant, List.mem_singleton] at hx
        exact (Prod.mk.inj hx).1 ▸ hc
  · rw [literals_binary, List.mem_append] at hx
    exact hx.elim hf hg
  · rw [literals_binary, List.mem_append] at hx
    exact hx.elim hf hg

/-- **What is recorded is what stands complemented.** -/
theorem mem_recordComplements {e : Formula} {negated : Bool} {names : NameSet} {x : Char} :
    x ∈ e.recordComplements negated names ↔
      x ∈ names ∨ (x, true) ∈ (e.expandUnder negated).literals := by
  induction e generalizing negated names with
  | leaf c =>
      cases negated with
      | false => simp [recordComplements, expandUnder, literals]
      | true =>
          cases hconstant : Signal.constant? c with
          | some v =>
              simp [recordComplements, expandUnder, hconstant,
                literals_complementLeaf_of_constant hconstant]
          | none =>
              simp [recordComplements, expandUnder, hconstant,
                literals_complementLeaf_of_variable hconstant, or_comm]
  | not a ih => exact ih
  | binary op a b iha ihb =>
      simp only [recordComplements, expandUnder]
      cases op.family <;> cases (negated ^^ op.inverting) <;>
        simp only [iha, ihb, literals_binary, List.mem_append, or_assoc]

/-- The inputs that are used complemented are the names of the literals
    with a complement. -/
theorem mem_invertedInputs {e : Formula} {x : Char} :
    x ∈ e.invertedInputs ↔ (x, true) ∈ e.expand.literals := by
  rw [invertedInputs, mem_recordComplements, expand]
  exact ⟨fun h => h.resolve_left (NameSet.not_mem_empty x), .inr⟩

end SwitchLogic.Formula
