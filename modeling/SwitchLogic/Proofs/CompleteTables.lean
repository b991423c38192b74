import Mathlib.Algebra.BigOperators.Fin
import SwitchLogic.Proofs.Tabulation

/-! # Tables are complete

    A table over columns that cover its formula can always be built, and
    each valuation of the columns is met in exactly one of its rows: the
    one whose number has the values as binary digits.  Reading the digits
    off a number and putting a number together from digits are inverse to
    each other below the number of rows, whatever the number of columns.
    Neither the order of the columns nor a column that is listed twice
    makes a difference.

    What a table says of all its rows, it therefore says of all
    valuations. -/

namespace SwitchLogic

namespace Assignment

-- ── Numbers and digits ─────────────────────────────────────────────

/-- Rows with the same inputs are the same row. -/
theorem eq_of_rowInputs_eq {n i j : Nat} (hi : i < Nat.pow 2 n) (hj : j < Nat.pow 2 n)
    (h : rowInputs n i = rowInputs n j) : i = j := by
  refine Nat.eq_of_testBit_eq fun k => ?_
  by_cases hk : k < n
  · -- digit `k` stands in column `n - 1 - k`
    have hcolumn : n - 1 - k < n := by omega
    have hdigit : n - 1 - (n - 1 - k) = k := by omega
    have hget := congrArg (·[n - 1 - k]?) h
    simpa [rowInputs, hcolumn, hdigit] using hget
  · have hpow : Nat.pow 2 n ≤ 2 ^ k := Nat.pow_le_pow_right (by decide) (Nat.le_of_not_lt hk)
    rw [Nat.testBit_lt_two_pow (Nat.lt_of_lt_of_le hi hpow),
      Nat.testBit_lt_two_pow (Nat.lt_of_lt_of_le hj hpow)]

/-- The number of a row as a sum over the columns, the first of the
    highest weight. -/
theorem rowIndex_map_eq_sum (f : Char → Bool) (columns : List Char) :
    rowIndex (columns.map f)
      = ∑ j : Fin columns.length, (f columns[j]).toNat * 2 ^ (columns.length - 1 - j) := by
  induction columns with
  | nil => rfl
  | cons c rest ih =>
      rw [List.map_cons, rowIndex, ih, List.length_map, mul_comm]
      refine Eq.trans ?_ (Fin.sum_univ_succ _).symm
      refine congrArg₂ (· + ·) rfl (Finset.sum_congr rfl fun j _ => ?_)
      have hweight : rest.length - 1 - j = (c :: rest).length - 1 - j.succ := by
        rw [List.length_cons, Fin.val_succ]
        omega
      rw [hweight]
      rfl

end Assignment

namespace TruthTable

open Assignment

-- ── Rows of a table ────────────────────────────────────────────────

variable {t : TruthTable} {i : Nat} {r : TruthRow}

/-- A row consists of its number, the digits of the number, and the output
    at it. -/
theorem row?_eq_some_iff :
    t.row? i = some r ↔
      r.index = i ∧ r.inputs = rowInputs t.columns.length i ∧ t.outputs[i]? = some r.output := by
  obtain ⟨index, inputs, output⟩ := r
  simp only [row?, Option.map_eq_some_iff, TruthRow.mk.injEq]
  constructor
  · rintro ⟨v, hv, rfl, rfl, rfl⟩
    exact ⟨rfl, rfl, hv⟩
  · rintro ⟨rfl, rfl, hv⟩
    exact ⟨output, hv, rfl, rfl, rfl⟩

/-- There is a row for every number below the row count. -/
theorem exists_row? (h : i < t.rowCount) : ∃ r, t.row? i = some r := by
  have hget : t.outputs[i]? = some t.outputs[i] := Array.getElem?_eq_getElem h
  exact ⟨_, congrArg (Option.map _) hget⟩

/-- A row of a table shows one of its outputs. -/
theorem getElem_outputs_of_row? (h : t.row? i = some r) :
    ∃ hlt : i < t.outputs.size, t.outputs[i] = r.output := by
  obtain ⟨-, -, hout⟩ := row?_eq_some_iff.mp h
  exact Array.getElem?_eq_some_iff.mp hout

-- ── Building a table ───────────────────────────────────────────────

/-- Outcomes that are all values are collected. -/
theorem exists_collect {f : Nat → Except Error Bool} {rows : List Nat}
    (h : ∀ i ∈ rows, ∃ v, f i = .ok v) : ∃ vs, collect f rows = .ok vs := by
  induction rows with
  | nil => exact ⟨[], rfl⟩
  | cons i rest ih =>
      obtain ⟨v, hv⟩ := h i List.mem_cons_self
      obtain ⟨vs, hvs⟩ := ih fun j hj => h j (List.mem_cons_of_mem i hj)
      exact ⟨v :: vs, by rw [collect, hv, hvs]⟩

variable {e : Formula} {columns : List Char} {maxVariables : Nat}

/-- **A table is built** where the columns cover the formula and there
    are not too many of them. -/
theorem exists_build (hcolumns : ∀ x ∈ e.leaves, Signal.constant? x = none → x ∈ columns)
    (hlimit : columns.length ≤ maxVariables) : ∃ t, build e columns maxVariables = .ok t := by
  obtain ⟨vs, hvs⟩ : ∃ vs, collect (fun i => e.evaluate (ofRow columns i))
      (List.range (Nat.pow 2 columns.length)) = .ok vs :=
    exists_collect fun i _ =>
      Formula.exists_evaluate (lacks_eq_false_of_isValuation (isValuation_ofRow columns i) hcolumns)
  rw [build, if_neg (Nat.not_lt_of_le hlimit)]
  split
  · rename_i err herr
    rw [hvs] at herr
    cases herr
  · exact ⟨_, rfl⟩

/-- **The two outcomes of building a table.**  Over columns that cover
    the formula, too many columns are refused with their number, and
    every other table is built. -/
theorem build_cases (hcolumns : ∀ x ∈ e.leaves, Signal.constant? x = none → x ∈ columns)
    (maxVariables : Nat) :
    (maxVariables < columns.length ∧
        build e columns maxVariables
          = .error (.tooManyVariables columns.length maxVariables)) ∨
      (columns.length ≤ maxVariables ∧ ∃ t, build e columns maxVariables = .ok t) := by
  by_cases h : maxVariables < columns.length
  · exact .inl ⟨h, by rw [build, if_pos h]⟩
  · have hle := Nat.le_of_not_lt h
    exact .inr ⟨hle, exists_build hcolumns hle⟩

-- ── Rows and valuations ────────────────────────────────────────────

/-- A row of a table that was built holds the value of the formula. -/
theorem evaluate_of_row? (ht : build e columns maxVariables = .ok t) (h : t.row? i = some r) :
    r.inputs = rowInputs columns.length i ∧ e.evaluate (ofRow columns i) = .ok r.output := by
  obtain ⟨hcolumns, -, hrows⟩ := build_eq_ok ht
  obtain ⟨-, hinputs, hout⟩ := row?_eq_some_iff.mp h
  rw [← Array.getElem?_toList] at hout
  exact ⟨hcolumns ▸ hinputs, hrows i r.output hout⟩

/-- **A valuation is met in exactly one row**, the one whose number has
    its values as digits. -/
theorem exists_row_of_valuation (ht : build e columns maxVariables = .ok t) {s : Assignment}
    (hs : s.IsValuation columns) :
    ∃ i r, t.row? i = some r ∧ r.inputs = columns.map s.level ∧
      (∀ j r', t.row? j = some r' → r'.inputs = columns.map s.level → j = i) ∧
      i = ∑ j : Fin columns.length, (s.level columns[j]).toNat * 2 ^ (columns.length - 1 - j) ∧
      (∀ name, (ofRow columns i).get? name = s.get? name) ∧ e.evaluate s = .ok r.output := by
  obtain ⟨-, hcount, -⟩ := build_eq_ok ht
  obtain ⟨hdigits, hget⟩ := row_of_isValuation hs
  have hlt := rowIndex_lt (columns.map s.level)
  rw [List.length_map] at hlt
  obtain ⟨r, hr⟩ := exists_row? (hcount ▸ hlt)
  obtain ⟨hinputs, hvalue⟩ := evaluate_of_row? ht hr
  refine ⟨_, r, hr, hinputs.trans hdigits, fun j r' hr' hsame => ?_,
    rowIndex_map_eq_sum s.level columns, hget, ?_⟩
  · obtain ⟨hinputs', -⟩ := evaluate_of_row? ht hr'
    obtain ⟨hlt', -⟩ := getElem_outputs_of_row? hr'
    exact eq_of_rowInputs_eq (hcount ▸ hlt') hlt
      (hinputs'.symm.trans (hsame.trans hdigits.symm))
  · exact Formula.evaluate_of_extends (fun name v hv => (hget name).symm.trans hv) hvalue

/-- What all outputs say, all valuations say. -/
theorem forall_outputs_iff (ht : build e columns maxVariables = .ok t) (v : Bool) :
    (∀ i, ∀ hlt : i < t.outputs.size, t.outputs[i] = v) ↔
      ∀ s : Assignment, s.IsValuation columns → e.evaluate s = .ok v := by
  constructor
  · intro h s hs
    obtain ⟨i, r, hr, -, -, -, -, hvalue⟩ := exists_row_of_valuation ht hs
    obtain ⟨hlt, hout⟩ := getElem_outputs_of_row? hr
    rw [hvalue, ← hout, h i hlt]
  · intro h i hlt
    obtain ⟨r, hr⟩ := exists_row? hlt
    obtain ⟨_, hout⟩ := getElem_outputs_of_row? hr
    obtain ⟨-, hvalue⟩ := evaluate_of_row? ht hr
    rw [hout]
    exact Except.ok.inj (hvalue.symm.trans (h _ (isValuation_ofRow columns i)))

/-- **A tautology** is true under every valuation of its columns. -/
theorem isTautology_iff (ht : build e columns maxVariables = .ok t) :
    t.isTautology = true ↔
      ∀ s : Assignment, s.IsValuation columns → e.evaluate s = .ok true := by
  rw [← forall_outputs_iff ht, isTautology, Array.all_eq_true]
  rfl

/-- **A contradiction** is false under every valuation of its columns. -/
theorem isContradiction_iff (ht : build e columns maxVariables = .ok t) :
    t.isContradiction = true ↔
      ∀ s : Assignment, s.IsValuation columns → e.evaluate s = .ok false := by
  rw [← forall_outputs_iff ht, isContradiction, Array.all_eq_true]
  simp only [Bool.not_eq_true']

/-- **Tables are complete and exact.**  Over columns that cover the
    formula, within the limit, a table is built.  It has a row for every
    combination of values; each valuation is met in one row and no other,
    whose number has the values as digits, whose assignment is the
    valuation, and whose output is the value of the formula.  So the
    table tells tautologies and contradictions. -/
theorem build_complete (hcolumns : ∀ x ∈ e.leaves, Signal.constant? x = none → x ∈ columns)
    (hlimit : columns.length ≤ maxVariables) :
    ∃ t, build e columns maxVariables = .ok t ∧ t.columns = columns ∧
      t.rowCount = 2 ^ columns.length ∧
      (∀ s : Assignment, s.IsValuation columns →
        ∃ i r, t.row? i = some r ∧ r.inputs = columns.map s.level ∧
          (∀ j r', t.row? j = some r' → r'.inputs = columns.map s.level → j = i) ∧
          i = ∑ j : Fin columns.length,
            (s.level columns[j]).toNat * 2 ^ (columns.length - 1 - j) ∧
          (∀ name, (ofRow columns i).get? name = s.get? name) ∧
          e.evaluate s = .ok r.output) ∧
      (t.isTautology = true ↔
        ∀ s : Assignment, s.IsValuation columns → e.evaluate s = .ok true) ∧
      (t.isContradiction = true ↔
        ∀ s : Assignment, s.IsValuation columns → e.evaluate s = .ok false) := by
  obtain ⟨t, ht⟩ := exists_build hcolumns hlimit
  obtain ⟨hsame, hcount, -⟩ := build_eq_ok ht
  exact ⟨t, ht, hsame, hcount, fun s hs => exists_row_of_valuation ht hs, isTautology_iff ht,
    isContradiction_iff ht⟩

/-- The table of `a and !b` over the columns `b`, `q`, `a`: where `b` is
    low and the others are high, row 3 of 8 says that the formula is
    true. -/
theorem build_complete_and :
    let e := Formula.and (.leaf 'a') (.not (.leaf 'b'))
    let s : Assignment := ⟨[('b', false), ('q', true), ('a', true)]⟩
    ∃ t, build e ['b', 'q', 'a'] 3 = .ok t ∧ t.rowCount = 8 ∧ s.IsValuation ['b', 'q', 'a'] ∧
      ∃ r, t.row? 3 = some r ∧ r.inputs = [false, true, true] ∧ r.output = true := by
  intro e s
  have hcolumns : ∀ x ∈ ['a', 'b'], Signal.constant? x = none → x ∈ ['b', 'q', 'a'] := by
    intro x hx _
    simp only [List.mem_cons, List.not_mem_nil, or_false] at hx
    rcases hx with rfl | rfl <;> simp
  have hs : s.IsValuation ['b', 'q', 'a'] := by
    intro name
    rw [isSome_get?_iff]
    rfl
  obtain ⟨t, ht, -, hcount, hrows, -⟩ := build_complete (e := e) hcolumns (Nat.le_refl 3)
  obtain ⟨i, r, hr, hinputs, -, hi, -, hvalue⟩ := hrows s hs
  obtain rfl : i = 3 := hi.trans (by decide)
  exact ⟨t, ht, hcount, hs, r, hr, hinputs, Except.ok.inj (hvalue.symm.trans rfl)⟩

end TruthTable

end SwitchLogic
