import SwitchLogic.Proofs.Extension

/-! # Rows and valuations

    A valuation of some columns gives values to exactly their names.
    Every row of a truth table is one, and every valuation is met in a
    row: the one whose number has the values as its binary digits, the
    first the most significant.  What holds in every row and survives
    further assignments therefore holds under every valuation.

    A table that was built holds the value of its formula in each row. -/

namespace SwitchLogic

namespace Assignment

/-- Whether an assignment gives values to exactly the given names. -/
def IsValuation (s : Assignment) (columns : List Char) : Prop :=
  ∀ name, (s.get? name).isSome = true ↔ name ∈ columns

-- ── Looking up a column ────────────────────────────────────────────

/-- The names with a value are those of the entries. -/
theorem isSome_get?_iff {s : Assignment} {name : Char} :
    (s.get? name).isSome = true ↔ name ∈ s.entries.map Prod.fst := by
  rw [get?, List.lookup_isSome_iff, List.mem_map]
  exact exists_congr fun entry => and_congr_right fun _ => beq_iff_eq.trans eq_comm

/-- Entries with the values of a function: repetitions do not matter. -/
theorem lookup_map_pair (σ : Char → Bool) (names : List Char) (name : Char) :
    (names.map fun c => (c, σ c)).lookup name = if name ∈ names then some (σ name) else none := by
  induction names with
  | nil => rfl
  | cons c rest ih =>
      rw [List.map_cons, List.lookup_cons, ih]
      by_cases h : name = c
      · simp [h]
      · simp [h, beq_eq_false_iff_ne.mpr h]

/-- Columns with the values of a function have these values. -/
theorem get?_ofColumns_map (σ : Char → Bool) (columns : List Char) (name : Char) :
    (ofColumns (columns.map fun c => (c, σ c))).get? name
      = if name ∈ columns then some (σ name) else none := by
  rw [get?, ofColumns, ← List.map_reverse, lookup_map_pair]
  simp only [List.mem_reverse]

-- ── Rows ───────────────────────────────────────────────────────────

/-- The number of the row with the given inputs: they are its binary
    digits, the first the most significant. -/
def rowIndex : List Bool → Nat
  | [] => 0
  | v :: rest => Nat.pow 2 rest.length * v.toNat + rowIndex rest

/-- The number of a row has no more digits than there are columns. -/
theorem rowIndex_lt (inputs : List Bool) : rowIndex inputs < Nat.pow 2 inputs.length := by
  induction inputs with
  | nil => decide
  | cons v rest ih =>
      have hpow : Nat.pow 2 (v :: rest).length = Nat.pow 2 rest.length * 2 := rfl
      rw [rowIndex, hpow]
      cases v <;> simp only [Bool.toNat_false, Bool.toNat_true] <;> omega

/-- A row has an input for each column. -/
@[simp] theorem length_rowInputs (n row : Nat) : (rowInputs n row).length = n := by
  simp [rowInputs]

theorem rowInputs_succ (n row : Nat) :
    rowInputs (n + 1) row = row.testBit n :: rowInputs n row := by
  rw [rowInputs, rowInputs, List.range_succ_eq_map, List.map_cons, List.map_map]
  refine congrArg (row.testBit n :: ·) (List.map_congr_left fun j _ => ?_)
  have hdigit : n + 1 - 1 - Nat.succ j = n - 1 - j := by omega
  exact congrArg row.testBit hdigit

/-- Digits in front of the last `n` do not reach `n` columns. -/
theorem rowInputs_add (a : Nat) {n row : Nat} (h : row < Nat.pow 2 n) :
    rowInputs n (Nat.pow 2 n * a + row) = rowInputs n row := by
  refine List.map_congr_left fun j hj => ?_
  have hlt : n - 1 - j < n := by
    have := List.mem_range.mp hj
    omega
  exact (Nat.testBit_two_pow_mul_add a h _).trans (if_pos hlt)

/-- **A row is found by its inputs.** -/
theorem rowInputs_rowIndex (inputs : List Bool) :
    rowInputs inputs.length (rowIndex inputs) = inputs := by
  induction inputs with
  | nil => rfl
  | cons v rest ih =>
      have hlt := rowIndex_lt rest
      have hfirst : (Nat.pow 2 rest.length * v.toNat + rowIndex rest).testBit rest.length
          = v := by
        refine (Nat.testBit_two_pow_mul_add v.toNat hlt _).trans ?_
        rw [if_neg (Nat.lt_irrefl _), Nat.sub_self]
        cases v <;> rfl
      rw [List.length_cons, rowInputs_succ, rowIndex, hfirst, rowInputs_add _ hlt, ih]

/-- A row is a valuation of its columns. -/
theorem isValuation_ofRow (columns : List Char) (row : Nat) :
    (ofRow columns row).IsValuation columns := by
  intro name
  rw [isSome_get?_iff, ofRow, ofColumns, List.map_reverse, List.map_fst_zip (by simp),
    List.mem_reverse]

/-- The value given to a name, or low where none is given. -/
def level (s : Assignment) (name : Char) : Bool := (s.get? name).getD false

/-- A valuation gives each column its level. -/
theorem get?_eq_some_level {s : Assignment} {columns : List Char} (hs : s.IsValuation columns)
    {name : Char} (h : name ∈ columns) : s.get? name = some (s.level name) := by
  obtain ⟨v, hv⟩ := Option.isSome_iff_exists.mp ((hs name).mpr h)
  rw [level, hv]
  rfl

/-- The row of a valuation: its inputs and its assignment. -/
theorem row_of_isValuation {s : Assignment} {columns : List Char} (hs : s.IsValuation columns) :
    rowInputs columns.length (rowIndex (columns.map s.level)) = columns.map s.level ∧
      ∀ name, (ofRow columns (rowIndex (columns.map s.level))).get? name = s.get? name := by
  have hinputs := rowInputs_rowIndex (columns.map s.level)
  rw [List.length_map] at hinputs
  refine ⟨hinputs, fun name => ?_⟩
  rw [ofRow, hinputs, ← List.map_prod_left_eq_zip, get?_ofColumns_map]
  split
  · rename_i hname
    exact (get?_eq_some_level hs hname).symm
  · rename_i hname
    exact (Option.not_isSome_iff_eq_none.mp fun hsome => hname ((hs name).mp hsome)).symm

/-- **Every valuation is a row.** -/
theorem exists_row_of_isValuation {s : Assignment} {columns : List Char}
    (h : s.IsValuation columns) :
    ∃ i, i < Nat.pow 2 columns.length ∧ ∀ name, (ofRow columns i).get? name = s.get? name := by
  have hlt := rowIndex_lt (columns.map s.level)
  rw [List.length_map] at hlt
  exact ⟨_, hlt, (row_of_isValuation h).2⟩

/-- **From rows to valuations.**  What survives further assignments holds
    under every valuation as soon as it holds in every row. -/
theorem forall_isValuation_iff_forall_row {columns : List Char} {P : Assignment → Prop}
    (hP : ∀ s s' : Assignment, s'.Extends s → P s → P s') :
    (∀ s : Assignment, s.IsValuation columns → P s) ↔
      ∀ i, i < Nat.pow 2 columns.length → P (ofRow columns i) := by
  constructor
  · intro h i _
    exact h _ (isValuation_ofRow columns i)
  · intro h s hs
    obtain ⟨i, hi, hget⟩ := exists_row_of_isValuation hs
    exact hP _ s (fun name value hv => (hget name).symm.trans hv) (h i hi)

/-- Under a valuation of enough columns, no leaf is missing. -/
theorem lacks_eq_false_of_isValuation {s : Assignment} {columns names : List Char}
    (hs : s.IsValuation columns)
    (h : ∀ x ∈ names, Signal.constant? x = none → x ∈ columns) :
    ∀ x ∈ names, s.lacks x = false := by
  intro x hx
  exact lacks_eq_false fun hconstant => (hs x).mpr (h x hx hconstant)

end Assignment

-- ── Tables that were built ─────────────────────────────────────────

namespace TruthTable

/-- The values collected are those of the rows. -/
theorem map_eq_of_collect {f : Nat → Except Error Bool} {rows : List Nat} {vs : List Bool}
    (h : collect f rows = .ok vs) : rows.map f = vs.map .ok := by
  induction rows generalizing vs with
  | nil =>
      cases h
      rfl
  | cons i rest ih =>
      rw [collect] at h
      cases hfirst : f i with
      | error e =>
          rw [hfirst] at h
          cases h
      | ok v =>
          cases hrest : collect f rest with
          | error e =>
              rw [hfirst, hrest] at h
              cases h
          | ok ws =>
              rw [hfirst, hrest] at h
              cases h
              rw [List.map_cons, List.map_cons, hfirst, ih hrest]

/-- **What a table holds.**  A table that was built has the columns that
    were asked for, a row for each combination of their values, and in
    each row the value of the formula. -/
theorem build_eq_ok {e : Formula} {columns : List Char} {maxVariables : Nat}
    {t : TruthTable} (h : build e columns maxVariables = .ok t) :
    t.columns = columns ∧ t.rowCount = Nat.pow 2 columns.length ∧
      ∀ i v, t.outputs.toList[i]? = some v →
        e.evaluate (Assignment.ofRow columns i) = .ok v := by
  unfold build at h
  split at h
  · cases h
  · split at h
    · cases h
    · rename_i outputs hcollect
      cases h
      refine ⟨rfl, by simpa [rowCount] using length_of_collect hcollect, fun i v hv => ?_⟩
      have hmap := congrArg (·[i]?) (map_eq_of_collect hcollect)
      simp only [List.getElem?_map, hv, Option.map_some] at hmap
      obtain ⟨j, hj, houtcome⟩ := Option.map_eq_some_iff.mp hmap
      obtain ⟨hlt, rfl⟩ := List.getElem?_eq_some_iff.mp hj
      rwa [List.getElem_range] at houtcome

/-- **A table depends on outcomes only**, and so do its refusals. -/
theorem build_eq_of_evaluate_eq {e₁ e₂ : Formula} (h : ∀ s, e₁.evaluate s = e₂.evaluate s)
    (columns : List Char) (maxVariables : Nat) :
    build e₁ columns maxVariables = build e₂ columns maxVariables := by
  have hrows : (fun i => e₁.evaluate (Assignment.ofRow columns i))
      = fun i => e₂.evaluate (Assignment.ofRow columns i) := funext fun i => h _
  -- a table carries a proof about its rows, so they cannot simply be rewritten
  unfold build
  grind

end TruthTable

end SwitchLogic
