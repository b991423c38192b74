import SwitchLogic.Proofs.CompleteTables

/-! # Tables over any columns

    The columns of a table need not suit the formula.  Too many of them
    are refused before the formula is looked at.  A variable without a
    column has no value in any row, so the first row already reports it,
    and it reports the leftmost one; which row fails first makes no
    difference.

    Where every variable has a column the table is built, whatever else
    is among the columns.  Of two columns with one name the last gives the
    value, because it is entered last, and a column that is named like a
    constant is never looked up. -/

namespace SwitchLogic

namespace Assignment

-- ── The last column of a name ──────────────────────────────────────

/-- Whether a column is the last of the given name. -/
def IsLastColumn (columns : List Char) (name : Char) (j : Nat) : Prop :=
  columns[j]? = some name ∧ ∀ k, j < k → columns[k]? ≠ some name

/-- Whether an assignment gives every column's name, constants apart, the
    digit of a row that belongs to the last column of that name; the first
    column has the most significant digit. -/
def Decodes (s : Assignment) (columns : List Char) (row : Nat) : Prop :=
  ∀ name j, IsLastColumn columns name j → Signal.constant? name = none →
    s.get? name = some (row.testBit (columns.length - 1 - j))

variable {columns : List Char} {name : Char} {row j : Nat}

/-- A column in front moves the last one of a name by one place. -/
theorem isLastColumn_succ {c : Char} (h : IsLastColumn columns name j) :
    IsLastColumn (c :: columns) name (j + 1) := by
  obtain ⟨hj, hlast⟩ := h
  refine ⟨hj, fun k hk => ?_⟩
  cases k with
  | zero => exact absurd hk (Nat.not_lt_zero _)
  | succ k => exact hlast k (Nat.lt_of_succ_lt_succ hk)

/-- Every name among the columns has a last one. -/
theorem exists_isLastColumn (h : name ∈ columns) : ∃ j, IsLastColumn columns name j := by
  induction columns with
  | nil => cases h
  | cons c rest ih =>
      by_cases hrest : name ∈ rest
      · obtain ⟨j, hj⟩ := ih hrest
        exact ⟨j + 1, isLastColumn_succ hj⟩
      · obtain rfl : name = c := (List.mem_cons.mp h).resolve_right hrest
        refine ⟨0, rfl, fun k hk hget => hrest ?_⟩
        cases k with
        | zero => exact absurd hk (Nat.lt_irrefl 0)
        | succ k => exact List.mem_of_getElem? hget

/-- **The last column counts.** -/
theorem get?_ofColumns_of_last {entries : List (Char × Bool)} {v : Bool}
    (h : IsLastColumn (entries.map Prod.fst) name j) (hv : (entries.map Prod.snd)[j]? = some v) :
    (ofColumns entries).get? name = some v := by
  show entries.reverse.lookup name = some v
  induction entries generalizing j with
  | nil => cases hv
  | cons entry rest ih =>
      obtain ⟨n, w⟩ := entry
      obtain ⟨hj, hlast⟩ := h
      rw [List.reverse_cons, List.lookup_append]
      cases j with
      | zero =>
          -- no later column has the name, so this one is reached
          obtain rfl : n = name := Option.some.inj hj
          obtain rfl : w = v := Option.some.inj hv
          have habsent : n ∉ rest.reverse.map Prod.fst := by
            rw [List.map_reverse, List.mem_reverse]
            intro hmem
            obtain ⟨k, hk⟩ := List.mem_iff_getElem?.mp hmem
            exact hlast (k + 1) (Nat.succ_pos k) hk
          have hnone : rest.reverse.lookup n = none :=
            Option.not_isSome_iff_eq_none.mp fun hsome =>
              habsent (isSome_get?_iff (s := ofColumns rest) |>.mp hsome)
          rw [hnone, List.lookup_cons_self]
          rfl
      | succ j =>
          have hrest : IsLastColumn (rest.map Prod.fst) name j :=
            ⟨hj, fun k hk => hlast (k + 1) (Nat.succ_lt_succ hk)⟩
          rw [ih hrest hv]
          rfl

/-- The inputs of a row are its digits, the most significant first. -/
theorem getElem?_rowInputs (h : j < columns.length) :
    (rowInputs columns.length row)[j]? = some (row.testBit (columns.length - 1 - j)) := by
  simp [rowInputs, h]

/-- **The assignment of a row decodes it.** -/
theorem decodes_ofRow (columns : List Char) (row : Nat) :
    (ofRow columns row).Decodes columns row := by
  intro name j h _
  have hlength : columns.length ≤ (rowInputs columns.length row).length := by simp
  have hlength' : (rowInputs columns.length row).length ≤ columns.length := by simp
  have hlt : j < columns.length := (List.getElem?_eq_some_iff.mp h.1).1
  refine get?_ofColumns_of_last (j := j) ?_ ?_
  · rwa [List.map_fst_zip hlength]
  · rw [List.map_snd_zip hlength']
    exact getElem?_rowInputs hlt

-- ── Variables without a column ─────────────────────────────────────

/-- Whether a signal is a variable that no column gives a value. -/
def hasNoColumn (columns : List Char) (name : Char) : Bool :=
  (Signal.constant? name).isNone && !columns.contains name

/-- What has no column has no value in any row. -/
theorem lacks_ofRow (columns : List Char) (row : Nat) :
    (ofRow columns row).lacks = hasNoColumn columns := by
  funext name
  have hvalue := isValuation_ofRow columns row name
  rw [lacks, hasNoColumn]
  by_cases h : name ∈ columns
  · rw [Option.isNone_eq_false_iff.mpr (hvalue.mpr h), List.contains_iff_mem.mpr h]
    rfl
  · have hnone := Option.not_isSome_iff_eq_none.mp fun hsome => h (hvalue.mp hsome)
    have hcontains := Bool.eq_false_iff.mpr fun hc => h (List.contains_iff_mem.mp hc)
    rw [hnone, hcontains]
    rfl

end Assignment

namespace Formula

open Assignment

/-- The leftmost leaf of a formula, constants apart, that has no column. -/
def firstWithoutColumn? (columns : List Char) (e : Formula) : Option Char :=
  e.leaves.find? (hasNoColumn columns)

/-- No leaf is without a column where every variable has one. -/
theorem firstWithoutColumn?_eq_none_iff {columns : List Char} {e : Formula} :
    e.firstWithoutColumn? columns = none ↔
      ∀ x ∈ e.leaves, Signal.constant? x = none → x ∈ columns := by
  simp [firstWithoutColumn?, hasNoColumn]

/-- The value of a formula depends on the values of its leaves only. -/
theorem evaluate_congr {s s' : Assignment} {e : Formula}
    (h : ∀ x ∈ e.leaves, s.value x = s'.value x) : e.evaluate s = e.evaluate s' := by
  induction e with
  | leaf c => exact h c (List.mem_singleton_self c)
  | not a ih => rw [evaluate_not, evaluate_not, ih h]
  | binary op a b iha ihb =>
      have ha := iha fun x hx => h x (List.mem_append_left _ hx)
      have hb := ihb fun x hx => h x (List.mem_append_right _ hx)
      rw [evaluate_binary, evaluate_binary, ha, hb]

/-- All assignments that decode a row agree on a formula whose variables
    have columns. -/
theorem evaluate_eq_of_decodes {e : Formula} {columns : List Char} {row : Nat}
    (hcolumns : ∀ x ∈ e.leaves, Signal.constant? x = none → x ∈ columns) {s s' : Assignment}
    (hs : s.Decodes columns row) (hs' : s'.Decodes columns row) :
    e.evaluate s = e.evaluate s' := by
  refine evaluate_congr fun x hx => ?_
  unfold value
  cases hconstant : Signal.constant? x with
  | some v => rfl
  | none =>
      obtain ⟨j, hj⟩ := exists_isLastColumn (hcolumns x hx hconstant)
      rw [hs x j hj hconstant, hs' x j hj hconstant]

end Formula

namespace TruthTable

open Assignment Formula

/-- Where all rows fail alike, so does the first. -/
theorem collect_eq_error {f : Nat → Except Error Bool} {rows : List Nat} {err : Error}
    (hne : rows ≠ []) (h : ∀ i ∈ rows, f i = .error err) : collect f rows = .error err := by
  cases rows with
  | nil => exact absurd rfl hne
  | cons i rest => rw [collect, h i List.mem_cons_self]

variable {e : Formula} {columns : List Char} {maxVariables : Nat}

/-- **A variable without a column is reported**, the leftmost one, from
    whichever row the failure comes. -/
theorem build_of_firstWithoutColumn? (hlimit : columns.length ≤ maxVariables) {x : Char}
    (hx : e.firstWithoutColumn? columns = some x) :
    build e columns maxVariables = .error (.unassignedVariable x) := by
  have hrow : ∀ i, e.evaluate (ofRow columns i) = .error (.unassignedVariable x) := by
    intro i
    refine evaluate_of_missing ?_
    rw [lacks_ofRow]
    exact hx
  have hrows : List.range (Nat.pow 2 columns.length) ≠ [] := by
    rw [Ne, List.range_eq_nil]
    exact Nat.ne_of_gt (Nat.two_pow_pos columns.length)
  have hcollect := collect_eq_error hrows fun i _ => hrow i
  rw [build, if_neg (Nat.not_lt_of_le hlimit)]
  split
  · rename_i err herr
    exact congrArg Except.error (Except.error.inj (herr.symm.trans hcollect))
  · rename_i outputs houtputs
    cases houtputs.symm.trans hcollect

/-- **The outcome of building a table, for any columns.**  More columns
    than the limit allows are refused, whatever the formula.  Otherwise
    the leftmost leaf that is no constant and has no column is reported.
    Without such a leaf the table is built, and the output of each row is
    the value of the formula under every assignment that gives the names
    the digits of their last columns; the row's own assignment is one. -/
theorem build_outcome (e : Formula) (columns : List Char) (maxVariables : Nat) :
    (maxVariables < columns.length → build e columns maxVariables
        = .error (.tooManyVariables columns.length maxVariables)) ∧
      (columns.length ≤ maxVariables → ∀ x, e.firstWithoutColumn? columns = some x →
        build e columns maxVariables = .error (.unassignedVariable x)) ∧
      (columns.length ≤ maxVariables → e.firstWithoutColumn? columns = none →
        ∃ t, build e columns maxVariables = .ok t ∧ t.columns = columns ∧
          t.rowCount = 2 ^ columns.length ∧
          ∀ i, i < 2 ^ columns.length → ∃ r, t.row? i = some r ∧
            (ofRow columns i).Decodes columns i ∧
            ∀ s : Assignment, s.Decodes columns i → e.evaluate s = .ok r.output) := by
  refine ⟨fun hlimit => ?_, fun hlimit x hx => build_of_firstWithoutColumn? hlimit hx,
    fun hlimit hnone => ?_⟩
  · rw [build, if_pos hlimit]
  · have hcolumns := firstWithoutColumn?_eq_none_iff.mp hnone
    obtain ⟨t, ht⟩ := exists_build hcolumns hlimit
    obtain ⟨hsame, hcount, -⟩ := build_eq_ok ht
    refine ⟨t, ht, hsame, hcount, fun i hi => ?_⟩
    have hlt : i < t.rowCount := by
      rw [hcount]
      exact hi
    obtain ⟨r, hr⟩ := exists_row? hlt
    refine ⟨r, hr, decodes_ofRow columns i, fun s hs => ?_⟩
    -- both assignments give every leaf the digit of its last column
    rw [evaluate_eq_of_decodes hcolumns hs (decodes_ofRow columns i)]
    exact (evaluate_of_row? ht hr).2

/-- Over the columns `a`, `1`, `b`, `a` the value of `a` is the last digit
    of a row, so row 1 makes `(a and 1) or b` true; over `b` alone `a` is
    missing, and three columns are more than two. -/
theorem build_outcome_or :
    let e := Formula.or (.and (.leaf 'a') (.leaf '1')) (.leaf 'b')
    let s : Assignment := ⟨[('a', true), ('b', false), ('1', false)]⟩
    (∃ t r, build e ['a', '1', 'b', 'a'] 4 = .ok t ∧ t.row? 1 = some r ∧
        s.Decodes ['a', '1', 'b', 'a'] 1 ∧ r.output = true) ∧
      build e ['b'] 2 = .error (.unassignedVariable 'a') ∧
      build e ['b', 'b', 'b'] 2 = .error (.tooManyVariables 3 2) := by
  intro e s
  have hs : s.Decodes ['a', '1', 'b', 'a'] 1 := by
    intro name j hj hvariable
    obtain ⟨hget, hlast⟩ := hj
    rcases j with _ | _ | _ | _ | j
    · cases hget
      exact absurd rfl (hlast 3 (by decide))
    · cases hget
      cases hvariable
    · cases hget
      rfl
    · cases hget
      rfl
    · cases hget
  obtain ⟨-, -, hbuilt⟩ := build_outcome e ['a', '1', 'b', 'a'] 4
  obtain ⟨-, hmissing, -⟩ := build_outcome e ['b'] 2
  obtain ⟨hmany, -, -⟩ := build_outcome e ['b', 'b', 'b'] 2
  obtain ⟨t, ht, -, -, hrows⟩ := hbuilt (by decide) rfl
  obtain ⟨r, hr, -, hvalue⟩ := hrows 1 (by decide)
  exact ⟨⟨t, r, ht, hr, hs, Except.ok.inj ((hvalue s hs).symm.trans rfl)⟩,
    hmissing (by decide) 'a' rfl, hmany (by decide)⟩

end TruthTable

end SwitchLogic
