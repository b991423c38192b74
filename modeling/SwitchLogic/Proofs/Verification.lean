import SwitchLogic.Proofs.Tabulation

/-! # Verification

    A circuit is checked against a table by its wiring and then by its
    outputs, row by row up to the first that fails.  For a table that
    was built from a formula, passing the check means that every
    inverter is there and that the circuit outputs the value of the
    formula under every valuation of the columns, whatever the networks
    of the circuit look like.

    The loop over the rows is followed by one statement with two cases:
    it ends with every row agreeing, or it stops at the first row that
    does not. -/

namespace SwitchLogic.Circuit

open Assignment

/-- Whether an inverter supplies every device of the two networks that
    takes a complemented signal. -/
def Supplied (c : Circuit) : Prop :=
  ∀ d ∈ c.pulldown.devices ++ c.pullup.devices, d.inverted = true → d.gate ∈ c.invertedInputs

/-- Whether a circuit outputs the value of a formula under an
    assignment. -/
def Computes (c : Circuit) (e : Formula) (s : Assignment) : Prop :=
  ∃ v, e.evaluate s = .ok v ∧ c.output s = .ok v

/-- How a row fails: the circuit has no output, for its own reason, or
    not the expected one. -/
def RowFails (c : Circuit) (columns : List Char) (row : Nat) (expected : Bool)
    (err : Error) : Prop :=
  c.output (ofRow columns row) = .error err ∨
    c.output (ofRow columns row) = .ok (!expected) ∧ err = .inconsistent (.differsAtRow row)

-- ── Wiring ─────────────────────────────────────────────────────────

/-- A circuit is supplied where no device is found without its inverter. -/
theorem unsupplied?_eq_none_iff {c : Circuit} : c.unsupplied? = none ↔ c.Supplied := by
  rw [unsupplied?, List.find?_eq_none]
  refine forall_congr' fun d => forall_congr' fun _ => ?_
  rw [Bool.and_eq_true, Bool.not_eq_true', Bool.eq_false_iff, ne_eq, NameSet.contains_iff,
    not_and, Classical.not_not]

/-- A circuit with complete wiring is judged by its rows. -/
theorem verify_of_supplied {c : Circuit} (h : c.Supplied) (t : TruthTable) :
    c.verify t = c.checkRows t.columns 0 t.outputs.toList := by
  rw [verify, unsupplied?_eq_none_iff.mpr h]

/-- A circuit that passes has complete wiring. -/
theorem supplied_of_verify {c : Circuit} {t : TruthTable} (h : c.verify t = .ok ()) :
    c.Supplied := by
  rw [verify] at h
  cases hfind : c.unsupplied? with
  | none => exact unsupplied?_eq_none_iff.mp hfind
  | some d =>
      rw [hfind] at h
      cases h

-- ── One row ────────────────────────────────────────────────────────

/-- A row either has the expected output or fails in one way. -/
theorem row_cases (c : Circuit) (columns : List Char) (row : Nat) (expected : Bool) :
    c.output (ofRow columns row) = .ok expected ∨
      ∃ err, c.RowFails columns row expected err := by
  unfold RowFails
  cases c.output (ofRow columns row) with
  | error err => exact .inr ⟨err, .inl rfl⟩
  | ok v =>
      by_cases h : v = expected
      · exact .inl (h ▸ rfl)
      · exact .inr ⟨_, .inr ⟨congrArg Except.ok (Bool.eq_not_of_ne h), rfl⟩⟩

/-- A row with the expected output is passed over. -/
theorem checkRows_cons_of_ok {c : Circuit} {columns : List Char} {row : Nat} {v : Bool}
    (h : c.output (ofRow columns row) = .ok v) (rest : List Bool) :
    c.checkRows columns row (v :: rest) = c.checkRows columns (row + 1) rest := by
  simp only [checkRows, h, if_true]

/-- A row that fails ends the check. -/
theorem checkRows_cons_of_fails {c : Circuit} {columns : List Char} {row : Nat} {v : Bool}
    {err : Error} (h : c.RowFails columns row v err) (rest : List Bool) :
    c.checkRows columns row (v :: rest) = .error err := by
  rcases h with h | ⟨h, rfl⟩
  · simp only [checkRows, h]
  · simp only [checkRows, h, Bool.not_eq_self, if_false]

-- ── All rows ───────────────────────────────────────────────────────

/-- Whether the first `n` rows from `row` on have the expected outputs. -/
def AgreesBelow (c : Circuit) (columns : List Char) (row : Nat) (expected : List Bool)
    (n : Nat) : Prop :=
  ∀ k v, k < n → expected[k]? = some v → c.output (ofRow columns (row + k)) = .ok v

/-- A first row that passes adds one to the rows that agree. -/
theorem agreesBelow_cons {c : Circuit} {columns : List Char} {row n : Nat} {v : Bool}
    {rest : List Bool} (hfirst : c.output (ofRow columns row) = .ok v)
    (hrest : c.AgreesBelow columns (row + 1) rest n) :
    c.AgreesBelow columns row (v :: rest) (n + 1) := by
  intro k w hk hw
  cases k with
  | zero =>
      obtain rfl : v = w := Option.some.inj hw
      exact hfirst
  | succ k =>
      have hnext := hrest k w (Nat.lt_of_succ_lt_succ hk) hw
      rwa [Nat.add_assoc, Nat.add_comm 1 k] at hnext

/-- **The check of the rows.**  Either all rows agree, or the first that
    fails gives the error. -/
theorem checkRows_cases (c : Circuit) (columns : List Char) (row : Nat)
    (expected : List Bool) :
    (c.checkRows columns row expected = .ok () ∧
        c.AgreesBelow columns row expected expected.length) ∨
      ∃ k v err, expected[k]? = some v ∧ c.AgreesBelow columns row expected k ∧
        c.RowFails columns (row + k) v err ∧
        c.checkRows columns row expected = .error err := by
  induction expected generalizing row with
  | nil => exact .inl ⟨rfl, fun k v hk => absurd hk (Nat.not_lt_zero k)⟩
  | cons v rest ih =>
      rcases row_cases c columns row v with hok | ⟨err, hfails⟩
      · rw [checkRows_cons_of_ok hok]
        rcases ih (row + 1) with ⟨hrest, hall⟩ | ⟨k, w, err, hw, hbelow, hfails, hrest⟩
        · exact .inl ⟨hrest, agreesBelow_cons hok hall⟩
        · rw [Nat.add_assoc, Nat.add_comm 1 k] at hfails
          exact .inr ⟨k + 1, w, err, hw, agreesBelow_cons hok hbelow, hfails, hrest⟩
      · exact .inr ⟨0, v, err, rfl, fun k _ hk => absurd hk (Nat.not_lt_zero k), hfails,
          checkRows_cons_of_fails hfails rest⟩

-- ── A table and its formula ────────────────────────────────────────

variable {c : Circuit} {e : Formula} {columns : List Char} {maxVariables : Nat}
  {t : TruthTable}

/-- A row that fails is not computed. -/
theorem not_computes_of_fails {row : Nat} {v : Bool} {err : Error}
    (hv : e.evaluate (ofRow columns row) = .ok v) (h : c.RowFails columns row v err) :
    ¬ c.Computes e (ofRow columns row) := by
  rintro ⟨w, hw, hout⟩
  obtain rfl : v = w := Except.ok.inj (hv.symm.trans hw)
  rcases h with h | ⟨h, -⟩
  · exact nomatch h.symm.trans hout
  · exact (Bool.not_eq_self v).mp (Except.ok.inj (h.symm.trans hout))

/-- What a circuit computes, it computes for every further assignment. -/
theorem computes_of_extends {s s' : Assignment} (h : s'.Extends s) (hs : c.Computes e s) :
    c.Computes e s' := by
  obtain ⟨v, hv, hout⟩ := hs
  exact ⟨v, Formula.evaluate_of_extends h hv, output_of_extends h hout⟩

/-- Rows that agree with the table are computed. -/
theorem computes_of_agreesBelow (ht : TruthTable.build e columns maxVariables = .ok t)
    {n : Nat} (hn : n ≤ t.rowCount) (h : c.AgreesBelow columns 0 t.outputs.toList n) :
    ∀ i, i < n → c.Computes e (ofRow columns i) := by
  intro i hi
  obtain ⟨-, -, hrows⟩ := TruthTable.build_eq_ok ht
  have hlt : i < t.outputs.toList.length := Nat.lt_of_lt_of_le hi hn
  have hentry := List.getElem?_eq_getElem hlt
  have hout := h i _ hi hentry
  rw [Nat.zero_add] at hout
  exact ⟨_, hrows i _ hentry, hout⟩

/-- **The verdict on a circuit with complete wiring.**  It passes when
    every row is computed, and otherwise the least row that is not gives
    the error. -/
theorem verify_cases (ht : TruthTable.build e columns maxVariables = .ok t)
    (hc : c.Supplied) :
    (c.verify t = .ok () ∧ ∀ i, i < t.rowCount → c.Computes e (ofRow columns i)) ∨
      ∃ i v err, i < t.rowCount ∧ (∀ j, j < i → c.Computes e (ofRow columns j)) ∧
        e.evaluate (ofRow columns i) = .ok v ∧ c.RowFails columns i v err ∧
        c.verify t = .error err := by
  obtain ⟨hcolumns, -, hrows⟩ := TruthTable.build_eq_ok ht
  rw [verify_of_supplied hc, hcolumns]
  rcases checkRows_cases c columns 0 t.outputs.toList with
    ⟨hok, hall⟩ | ⟨k, v, err, hv, hbelow, hfails, herror⟩
  · exact .inl ⟨hok, computes_of_agreesBelow ht (Nat.le_refl _) hall⟩
  · have hlt : k < t.rowCount := (List.getElem?_eq_some_iff.mp hv).1
    rw [Nat.zero_add] at hfails
    exact .inr ⟨k, v, err, hlt, computes_of_agreesBelow ht (Nat.le_of_lt hlt) hbelow,
      hrows k v hv, hfails, herror⟩

/-- **Verification accepts exactly the correct circuits.**  For a table
    that was built from a formula, a circuit passes if and only if its
    wiring is complete and it computes the formula under every valuation
    of the columns.  A circuit with complete wiring that does not pass
    gets the error of the least row that it does not compute. -/
theorem verify_eq_ok_iff (ht : TruthTable.build e columns maxVariables = .ok t) :
    (c.verify t = .ok () ↔
        c.Supplied ∧ ∀ s : Assignment, s.IsValuation columns → c.Computes e s) ∧
      (c.Supplied → ∀ err, c.verify t = .error err →
        ∃ i v, i < t.rowCount ∧ (∀ j, j < i → c.Computes e (ofRow columns j)) ∧
          e.evaluate (ofRow columns i) = .ok v ∧ c.RowFails columns i v err) := by
  obtain ⟨-, hcount, -⟩ := TruthTable.build_eq_ok ht
  constructor
  · rw [forall_isValuation_iff_forall_row fun s s' h => computes_of_extends h, ← hcount]
    constructor
    · intro hok
      have hc := supplied_of_verify hok
      rcases verify_cases ht hc with ⟨-, hall⟩ | ⟨i, v, err, -, -, -, -, herror⟩
      · exact ⟨hc, hall⟩
      · exact nomatch hok.symm.trans herror
    · rintro ⟨hc, hall⟩
      rcases verify_cases ht hc with ⟨hok, -⟩ | ⟨i, v, err, hi, -, hv, hfails, -⟩
      · exact hok
      · exact absurd (hall i hi) (not_computes_of_fails hv hfails)
  · intro hc err herr
    rcases verify_cases ht hc with ⟨hok, -⟩ | ⟨i, v, err', hi, hbelow, hv, hfails, herror⟩
    · exact nomatch hok.symm.trans herr
    · obtain rfl : err' = err := Except.error.inj (herror.symm.trans herr)
      exact ⟨i, v, hi, hbelow, hv, hfails⟩

/-- A stage for `a nor b` without the pull-up device of `b`. -/
def shortedNor : Circuit where
  core := .or (.leaf 'a') (.leaf 'b')
  pulldown := .parallel [.device ⟨.nmos, 'a', false⟩, .device ⟨.nmos, 'b', false⟩]
  pullup := .device ⟨.pmos, 'a', false⟩
  outputInverted := false
  invertedInputs := .empty

/-- Its wiring is complete, but both networks conduct where only `b` is
    high. -/
theorem verify_eq_ok_iff_shortedNor :
    ∃ t, TruthTable.build (.nor (.leaf 'a') (.leaf 'b')) ['b', 'a'] 2 = .ok t ∧
      shortedNor.Supplied ∧ shortedNor.verify t = .error (.inconsistent .shortCircuit) ∧
      (¬ ∀ s : Assignment, s.IsValuation ['b', 'a'] →
        shortedNor.Computes (.nor (.leaf 'a') (.leaf 'b')) s) ∧
      ∃ i v, i < t.rowCount ∧
        (∀ j, j < i → shortedNor.Computes (.nor (.leaf 'a') (.leaf 'b')) (ofRow ['b', 'a'] j)) ∧
        (Formula.nor (.leaf 'a') (.leaf 'b')).evaluate (ofRow ['b', 'a'] i) = .ok v ∧
        shortedNor.RowFails ['b', 'a'] i v (.inconsistent .shortCircuit) := by
  have hc : shortedNor.Supplied := unsupplied?_eq_none_iff.mp rfl
  have hbuilt : ∃ t, TruthTable.build (.nor (.leaf 'a') (.leaf 'b')) ['b', 'a'] 2 = .ok t ∧
      shortedNor.verify t = .error (.inconsistent .shortCircuit) := ⟨_, rfl, rfl⟩
  obtain ⟨t, ht, herror⟩ := hbuilt
  obtain ⟨haccepts, hrejects⟩ := verify_eq_ok_iff (c := shortedNor) ht
  refine ⟨t, ht, hc, herror, fun hall => ?_, hrejects hc _ herror⟩
  exact nomatch herror.symm.trans (haccepts.mpr ⟨hc, hall⟩)

end SwitchLogic.Circuit
