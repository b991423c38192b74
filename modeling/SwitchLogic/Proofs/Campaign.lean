import SwitchLogic.CommandLine.Outcome
import SwitchLogic.Proofs.Pipeline
import SwitchLogic.Proofs.Samples

/-! # Campaigns

    A campaign goes through the seeds from a first one on and checks the
    formula of each.  A formula that is too large is skipped; one that
    fits passes, unless it has too many letters for a table, and then the
    campaign ends there.  No formula is ever found at fault.

    One step is one of these three cases, and the whole run follows by
    induction on the seeds that are left: it ends at the first formula
    that fits and has too many letters, or it counts the formulas that do
    not fit. -/

namespace SwitchLogic.CommandLine

open Formula

variable {σ : Type} (source : RandomSource σ)

namespace Campaign

/-- The formula of the check with the given number, in a campaign that
    goes up from its first seed and around the greatest one. -/
def formula (size : SampleSize) (first i : Nat) : Formula :=
  sample source size (UInt64.ofNat ((first + i) % 2 ^ 64))

/-- Whether the synthesis of a formula is refused for its devices. -/
def skips (limits : Limits) (e : Formula) : Bool :=
  match Circuit.synthesize e limits.maxDevices with
  | .error (.networkTooLarge _ _) => true
  | _ => false

/-- Whether a formula fits the limit on devices but has more letters than
    a table may have columns. -/
def EndsAt (limits : Limits) (e : Formula) : Prop :=
  e.demand ≤ limits.maxDevices ∧ limits.maxVariables < e.letters.length

instance (limits : Limits) (e : Formula) : Decidable (EndsAt limits e) :=
  inferInstanceAs (Decidable (_ ∧ _))

/-- How a campaign ends at a formula: with the number of its letters, and
    in no context. -/
def tooManyLetters (limits : Limits) (e : Formula) : Failure :=
  ⟨[], .error (.tooManyVariables e.letters.length limits.maxVariables)⟩

/-- A campaign begins with the formula of its first seed. -/
theorem formula_zero (size : SampleSize) (first : Nat) :
    formula source size first 0 = sample source size (UInt64.ofNat first) := by
  rw [formula, UInt64.ofNat_mod_size]
  rfl

/-- The campaign from the next seed on is the rest of the campaign. -/
theorem formula_succ (size : SampleSize) (first i : Nat) :
    formula source size first (i + 1) = formula source size (first + 1) i := by
  rw [formula, formula, Nat.add_assoc, Nat.add_comm 1 i]

/-- Where the first formula does not end the campaign, it ends no earlier
    than the rest of it. -/
theorem not_endsAt_of_lt_succ {size : SampleSize} {limits : Limits} {first n : Nat}
    (hfirst : ¬ EndsAt limits (formula source size first 0))
    (hrest : ∀ j, j < n → ¬ EndsAt limits (formula source size (first + 1) j)) :
    ∀ j, j < n + 1 → ¬ EndsAt limits (formula source size first j) := by
  intro j hj
  cases j with
  | zero => exact hfirst
  | succ j =>
      rw [formula_succ]
      exact hrest j (Nat.lt_of_succ_lt_succ hj)

/-- The formulas that are skipped, counted from the first one on. -/
theorem countP_skips_succ (size : SampleSize) (limits : Limits) (first count : Nat) :
    (List.range (count + 1)).countP (fun i => skips limits (formula source size first i))
      = (skips limits (formula source size first 0)).toNat
        + (List.range count).countP fun i => skips limits (formula source size (first + 1) i) := by
  rw [List.range_succ_eq_map, List.countP_cons, List.countP_map, Nat.add_comm]
  simp only [Function.comp_def, formula_succ]
  cases skips limits (formula source size first 0) <;> rfl

end Campaign

namespace Outcome

open Campaign

/-- **One check of a campaign.**  The formula ends the campaign, or the
    campaign goes on at the next seed and has counted the formula if it
    was skipped. -/
theorem countSkipped_succ_cases (size : SampleSize) (limits : Limits) (first count skipped : Nat) :
    (EndsAt limits (formula source size first 0) ∧
        countSkipped source size limits (count + 1) (UInt64.ofNat first) skipped
          = .error (tooManyLetters limits (formula source size first 0))) ∨
      ¬ EndsAt limits (formula source size first 0) ∧
        countSkipped source size limits (count + 1) (UInt64.ofNat first) skipped
          = countSkipped source size limits count (UInt64.ofNat (first + 1))
              (skipped + (skips limits (formula source size first 0)).toNat) := by
  have hseed : UInt64.ofNat first + 1 = UInt64.ofNat (first + 1) := (UInt64.ofNat_add first 1).symm
  rw [countSkipped, skips, EndsAt, formula_zero, hseed]
  have hwritable := isWritable_of_mem_sample source size (UInt64.ofNat first)
  -- a sample has no other leaves than letters and constants, so nothing else can fail
  rcases Circuit.checked_cases hwritable limits with
    ⟨hlarge, herror⟩ | ⟨hfits, c, hc, ⟨hmany, herror⟩ | ⟨hfew, t, ht, -, hok⟩⟩
  · simp only [herror]
    exact .inr ⟨fun h => absurd h.1 (Nat.not_le_of_lt hlarge), rfl⟩
  · simp only [hc, herror]
    exact .inl ⟨⟨hfits, hmany⟩, rfl⟩
  · simp only [hc, ht, hok]
    exact .inr ⟨fun h => absurd hfew (Nat.not_le_of_lt h.2), rfl⟩

/-- **A run of checks.**  It ends at the first formula that fits and has
    too many letters, and where there is none it counts those that were
    skipped. -/
theorem countSkipped_cases (size : SampleSize) (limits : Limits) (first count skipped : Nat) :
    (∃ i, i < count ∧ EndsAt limits (formula source size first i) ∧
        (∀ j, j < i → ¬ EndsAt limits (formula source size first j)) ∧
        countSkipped source size limits count (UInt64.ofNat first) skipped
          = .error (tooManyLetters limits (formula source size first i))) ∨
      (∀ i, i < count → ¬ EndsAt limits (formula source size first i)) ∧
        countSkipped source size limits count (UInt64.ofNat first) skipped
          = .ok (skipped
              + (List.range count).countP fun i => skips limits (formula source size first i)) := by
  induction count generalizing first skipped with
  | zero => exact .inr ⟨fun i hi => absurd hi (Nat.not_lt_zero i), rfl⟩
  | succ count ih =>
      rcases countSkipped_succ_cases source size limits first count skipped with
        ⟨hends, herror⟩ | ⟨hpasses, hrest⟩
      · exact .inl ⟨0, Nat.succ_pos count, hends, fun j hj => absurd hj (Nat.not_lt_zero j), herror⟩
      · -- what is left is the campaign from the next seed on
        rw [hrest]
        rcases ih (first + 1) (skipped + (skips limits (formula source size first 0)).toNat) with
          ⟨i, hi, hends, hfirst, herror⟩ | ⟨hall, hok⟩
        · rw [← formula_succ] at hends herror
          exact .inl ⟨i + 1, Nat.succ_lt_succ hi, hends,
            not_endsAt_of_lt_succ source hpasses hfirst, herror⟩
        · refine .inr ⟨not_endsAt_of_lt_succ source hpasses hall, ?_⟩
          rw [hok, countP_skips_succ, Nat.add_assoc]

/-- The outcome of a campaign, by what its run came to. -/
def ofRun (count : Nat) : Except Failure Nat → Outcome
  | .error failure => ⟨"", none, some failure⟩
  | .ok skipped =>
      ⟨"", some ("Checked " ++ toString (count - skipped) ++ " expressions, skipped "
        ++ toString skipped ++ " too large to synthesize"), none⟩

end Outcome

namespace Request

open Campaign

/-- With letters and levels that a sample may have, a campaign is run. -/
theorem run_check (size : SampleSize) (first count : Nat) (limits : Limits) :
    (check ⟨count, size.letters, size.depth, first⟩ limits).run source
      = Outcome.ofRun count
          (Outcome.countSkipped source size limits count (UInt64.ofNat first) 0) := by
  show Outcome.check source ⟨count, size.letters, size.depth, first⟩ limits = _
  rw [Outcome.check, dif_pos ⟨size.letters_pos, size.letters_le⟩, dif_pos size.depth_pos]
  show (match Outcome.countSkipped source size limits count (UInt64.ofNat first) 0 with
    | .error failure => _
    | .ok skipped => _) = _
  cases Outcome.countSkipped source size limits count (UInt64.ofNat first) 0 with
  | error failure => rfl
  | ok skipped => rfl

end Request

end SwitchLogic.CommandLine
