import SwitchLogic.Proofs.Verification
import SwitchLogic.Proofs.Wiring

/-! # Deciding equivalence

    Checking the circuit of one formula against the table of another
    decides whether the two formulas are equivalent over the columns.
    Both sides read the same rows: the circuit outputs the value of the
    first formula wherever it has one, and the table holds the value of
    the second.  So the check passes when the values agree everywhere,
    and otherwise it names the least row where they do not.

    The circuit itself is never at fault.  Its wiring is complete, and it
    has an output in every row whose columns cover its formula. -/

namespace SwitchLogic.Circuit

open Assignment

variable {e₁ e₂ : Formula} {maxDevices : Nat} {c : Circuit}

/-- **Synthesis wires completely.** -/
theorem supplied_of_synthesize (hc : synthesize e₁ maxDevices = .ok c) : c.Supplied := by
  intro d hd hinverted
  obtain ⟨d', hd', hinverted', hgate⟩ := exists_pulldown_device hc hd
  exact (mem_invertedInputs_iff hc).mpr ⟨d', hd', hinverted'.trans hinverted, hgate⟩

/-- **The only fault is a difference.**  Whatever table a synthesized
    circuit is checked against, no fault of the circuit is reported. -/
theorem fault_of_verify (hc : synthesize e₁ maxDevices = .ok c) {t : TruthTable}
    {fault : Fault} (h : c.verify t = .error (.inconsistent fault)) :
    ∃ i, fault = .differsAtRow i := by
  rw [verify_of_supplied (supplied_of_synthesize hc)] at h
  rcases checkRows_cases c t.columns 0 t.outputs.toList with
    ⟨hok, -⟩ | ⟨k, v, err, -, -, hfails, herror⟩
  · exact nomatch hok.symm.trans h
  · obtain rfl : err = .inconsistent fault := Except.error.inj (herror.symm.trans h)
    rcases hfails with hout | ⟨-, hfault⟩
    · obtain ⟨x, -, -, hmissing⟩ := exists_lacks_of_output_eq_error hc hout
      cases hmissing
    · exact ⟨_, Error.inconsistent.inj hfault⟩

/-- Where its own formula has a value, a synthesized circuit computes
    exactly the formulas with that value. -/
theorem computes_iff_evaluate_eq (hc : synthesize e₁ maxDevices = .ok c) {s : Assignment}
    {v : Bool} (hv : e₁.evaluate s = .ok v) :
    c.Computes e₂ s ↔ e₁.evaluate s = e₂.evaluate s := by
  have hout : c.output s = .ok v := output_of_evaluate hc hv
  constructor
  · rintro ⟨w, hw, hout'⟩
    obtain rfl : v = w := Except.ok.inj (hout.symm.trans hout')
    rw [hv, hw]
  · intro heq
    exact ⟨v, heq ▸ hv, hout⟩

variable {columns : List Char} {maxVariables : Nat} {t : TruthTable}

/-- The two outcomes of checking one formula's circuit against another
    formula's table. -/
theorem verify_synthesize_cases (hc : synthesize e₁ maxDevices = .ok c)
    (hcolumns : ∀ x ∈ e₁.leaves, Signal.constant? x = none → x ∈ columns)
    (ht : TruthTable.build e₂ columns maxVariables = .ok t) :
    (c.verify t = .ok () ∧
        ∀ s : Assignment, s.IsValuation columns → e₁.evaluate s = e₂.evaluate s) ∨
      ∃ i, i < t.rowCount ∧
        (∀ j, j < i → e₁.evaluate (ofRow columns j) = e₂.evaluate (ofRow columns j)) ∧
        e₁.evaluate (ofRow columns i) ≠ e₂.evaluate (ofRow columns i) ∧
        c.verify t = .error (.inconsistent (.differsAtRow i)) := by
  have hcomputes : ∀ s : Assignment, s.IsValuation columns →
      (c.Computes e₂ s ↔ e₁.evaluate s = e₂.evaluate s) := by
    intro s hs
    obtain ⟨v, hv⟩ := Formula.exists_evaluate (lacks_eq_false_of_isValuation hs hcolumns)
    exact computes_iff_evaluate_eq hc hv
  have hrow : ∀ i, c.Computes e₂ (ofRow columns i) ↔
      e₁.evaluate (ofRow columns i) = e₂.evaluate (ofRow columns i) :=
    fun i => hcomputes _ (isValuation_ofRow columns i)
  obtain ⟨-, hcount, -⟩ := TruthTable.build_eq_ok ht
  rcases verify_cases ht (supplied_of_synthesize hc) with
    ⟨hok, hall⟩ | ⟨i, v, err, hi, hbelow, hv, hfails, herror⟩
  · rw [hcount, ← forall_isValuation_iff_forall_row fun s s' h => computes_of_extends h] at hall
    exact .inl ⟨hok, fun s hs => (hcomputes s hs).mp (hall s hs)⟩
  · have hdiffers := mt (hrow i).mpr (not_computes_of_fails hv hfails)
    -- the row fails by its output, since the circuit has one there
    obtain ⟨w, hw⟩ := Formula.exists_evaluate
      (lacks_eq_false_of_isValuation (isValuation_ofRow columns i) hcolumns)
    have hout : c.output (ofRow columns i) = .ok w := output_of_evaluate hc hw
    rcases hfails with hfails | ⟨-, rfl⟩
    · exact nomatch hout.symm.trans hfails
    · exact .inr ⟨i, hi, fun j hj => (hrow j).mp (hbelow j hj), hdiffers, herror⟩

/-- **Checking decides equivalence.**  The circuit of one formula passes
    against the table of another if and only if the two have the same
    value under every valuation of columns that cover the first; the
    table's existence says that they cover the second.  Otherwise the
    least row that tells them apart is named.  A formula's own circuit
    passes, and no table and no assignment brings out a fault of a
    synthesized circuit. -/
theorem verify_synthesize (hc : synthesize e₁ maxDevices = .ok c)
    (hcolumns : ∀ x ∈ e₁.leaves, Signal.constant? x = none → x ∈ columns)
    (ht : TruthTable.build e₂ columns maxVariables = .ok t) :
    (c.verify t = .ok () ↔
        ∀ s : Assignment, s.IsValuation columns → e₁.evaluate s = e₂.evaluate s) ∧
      (c.verify t ≠ .ok () →
        ∃ i, i < t.rowCount ∧
          (∀ j, j < i → e₁.evaluate (ofRow columns j) = e₂.evaluate (ofRow columns j)) ∧
          e₁.evaluate (ofRow columns i) ≠ e₂.evaluate (ofRow columns i) ∧
          c.verify t = .error (.inconsistent (.differsAtRow i)) ∧
          (Fault.differsAtRow i).message
            = "Circuit output differs from the truth table at row " ++ toString i) ∧
      (e₁ = e₂ → c.verify t = .ok ()) ∧
      (∀ (t' : TruthTable) (fault : Fault), c.verify t' = .error (.inconsistent fault) →
        ∃ i, fault = .differsAtRow i) ∧
      ∀ (s : Assignment) (fault : Fault), c.output s ≠ .error (.inconsistent fault) := by
  have haccepts : c.verify t = .ok () ↔
      ∀ s : Assignment, s.IsValuation columns → e₁.evaluate s = e₂.evaluate s := by
    rcases verify_synthesize_cases hc hcolumns ht with
      ⟨hok, hall⟩ | ⟨i, -, -, hdiffers, herror⟩
    · exact ⟨fun _ => hall, fun _ => hok⟩
    · constructor
      · intro hok
        exact nomatch hok.symm.trans herror
      · intro hall
        exact absurd (hall _ (isValuation_ofRow columns i)) hdiffers
  refine ⟨haccepts, ?_, ?_, ?_, ?_⟩
  · intro hrejects
    rcases verify_synthesize_cases hc hcolumns ht with
      ⟨hok, -⟩ | ⟨i, hi, hbelow, hdiffers, herror⟩
    · exact absurd hok hrejects
    · exact ⟨i, hi, hbelow, hdiffers, herror, rfl⟩
  · rintro rfl
    exact haccepts.mpr fun s _ => rfl
  · intro t' fault h
    exact fault_of_verify hc h
  · -- a synthesized circuit can only lack the value of a leaf, which is no fault
    intro s fault h
    obtain ⟨x, -, -, hmissing⟩ := exists_lacks_of_output_eq_error hc h
    cases hmissing

/-- The circuit of `a xor b` passes against the table of
    `(a or b) and (a nand b)`, with a column that neither uses: the two
    are equivalent. -/
theorem verify_synthesize_xor :
    ∃ c t, synthesize (.xor (.leaf 'a') (.leaf 'b')) 4 = .ok c ∧
      TruthTable.build
          (.and (.or (.leaf 'a') (.leaf 'b')) (.nand (.leaf 'a') (.leaf 'b')))
          ['b', 'q', 'a'] 3 = .ok t ∧
      c.verify t = .ok () ∧
      ∀ s : Assignment, s.IsValuation ['b', 'q', 'a'] →
        (Formula.xor (.leaf 'a') (.leaf 'b')).evaluate s
          = (Formula.and (.or (.leaf 'a') (.leaf 'b'))
              (.nand (.leaf 'a') (.leaf 'b'))).evaluate s := by
  have hmade : ∃ c t, synthesize (.xor (.leaf 'a') (.leaf 'b')) 4 = .ok c ∧
      TruthTable.build
          (.and (.or (.leaf 'a') (.leaf 'b')) (.nand (.leaf 'a') (.leaf 'b')))
          ['b', 'q', 'a'] 3 = .ok t ∧
      c.verify t = .ok () := ⟨_, _, rfl, rfl, rfl⟩
  obtain ⟨c, t, hc, ht, hok⟩ := hmade
  have hcolumns : ∀ x ∈ ['a', 'b'], Signal.constant? x = none → x ∈ ['b', 'q', 'a'] := by
    intro x hx _
    simp only [List.mem_cons, List.not_mem_nil, or_false] at hx
    rcases hx with rfl | rfl <;> simp
  exact ⟨c, t, hc, ht, hok, (verify_synthesize hc hcolumns ht).1.mp hok⟩

end SwitchLogic.Circuit
