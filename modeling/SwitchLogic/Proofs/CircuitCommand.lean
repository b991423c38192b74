import SwitchLogic.CommandLine.Outcome
import SwitchLogic.Proofs.Pipeline

/-! # The command for circuits

    The command `cmos` prints the circuit of a text and, if asked to,
    checks it against the truth table.  It fails only where something
    stands in the way of the circuit or of the table, and a circuit that
    is there is never found at fault.

    The circuit is printed before the check begins.  So what is printed
    without a check begins what is printed with one, even where the table
    is refused afterwards. -/

namespace SwitchLogic.CommandLine

/-- What stands in the way of the circuit of a text, or of its check if
    `verify`: the first in order counts. -/
inductive Obstacle (text : List Char) (verify : Bool) (limits : Limits) : Error → Prop
  /-- The text does not parse. -/
  | unreadable {err} : Expression.read limits text = .error err → Obstacle text verify limits err
  /-- The expanded seed has too many leaves. -/
  | devices {x} : Expression.read limits text = .ok x →
      limits.maxDevices < x.formula.demand →
      Obstacle text verify limits (.networkTooLarge x.formula.demand limits.maxDevices)
  /-- The formula has too many distinct letters for a table. -/
  | columns {x} : Expression.read limits text = .ok x → x.formula.demand ≤ limits.maxDevices →
      verify = true → limits.maxVariables < x.formula.letters.length →
      Obstacle text verify limits
        (.tooManyVariables x.formula.letters.length limits.maxVariables)

/-- No obstacle is a fault of the program. -/
theorem Obstacle.no_fault {text : List Char} {verify : Bool} {limits : Limits} {err : Error}
    (h : Obstacle text verify limits err) :
    (∀ fault, err ≠ .inconsistent fault) ∧ ∀ name, err ≠ .unassignedVariable name := by
  constructor
  · rintro fault rfl
    cases h with
    | unreadable hread => cases Expression.concernsText_of_read hread
  · rintro name rfl
    cases h with
    | unreadable hread => cases Expression.concernsText_of_read hread

namespace Outcome

/-- What is printed of a circuit. -/
def report (c : Circuit) : String := String.ofList c.text ++ c.statistics.text

/-- What is printed when a circuit has passed, if it is checked at all. -/
def closing (verify : Bool) (rows : Nat) : String :=
  if verify then "Circuit matches the truth table (" ++ toString rows ++ " rows)\n" else ""

/-- **The outcomes of the command.**  A text that does not parse and a
    circuit that is too large are reported and nothing is printed; a
    table that is too large is reported behind the circuit; and
    otherwise the circuit is printed, and what closes the check. -/
theorem run_synthesize_cases {σ : Type} (source : RandomSource σ) (text : List Char)
    (limits : Limits) :
    (∃ err, Expression.read limits text = .error err ∧
        ∀ verify, (Request.synthesize text verify limits).run source
          = failed "" [.unreadable text] err) ∨
      ∃ x, Expression.read limits text = .ok x ∧
        ((limits.maxDevices < x.formula.demand ∧ ∀ verify,
            (Request.synthesize text verify limits).run source
              = failed "" [] (.networkTooLarge x.formula.demand limits.maxDevices)) ∨
          x.formula.demand ≤ limits.maxDevices ∧ ∃ c, x.synthesize = .ok c ∧ ∀ verify,
            (verify = true ∧ limits.maxVariables < x.formula.letters.length ∧
                (Request.synthesize text verify limits).run source
                  = failed (report c) []
                      (.tooManyVariables x.formula.letters.length limits.maxVariables)) ∨
              (verify = true → x.formula.letters.length ≤ limits.maxVariables) ∧
                (Request.synthesize text verify limits).run source
                  = done (report c ++ closing verify (2 ^ x.formula.letters.length))) := by
  cases hread : Expression.read limits text with
  | error err =>
      refine .inl ⟨err, rfl, fun verify => ?_⟩
      rw [Request.run, withExpression, hread]
  | ok x =>
      refine .inr ⟨x, rfl, ?_⟩
      obtain ⟨-, hfields, -⟩ := Expression.exists_tokens_of_read hread
      have hlimits : x.limits = limits := by rw [hfields]
      have hletters : x.letters = x.formula.letters := by rw [hfields]
      have hrun : ∀ verify,
          (Request.synthesize text verify limits).run source = synthesize verify x := by
        intro verify
        rw [Request.run, withExpression, hread]
      simp only [hrun, synthesize, Expression.synthesize, Expression.truthTable, hlimits, hletters]
      -- a formula that was read has no other leaves than letters and constants
      rcases Circuit.checked_cases (Expression.isReadingOf_of_read hread).leaves limits with
        ⟨hlarge, herror⟩ | ⟨hfits, c, hc, htable⟩
      · rw [herror]
        exact .inl ⟨hlarge, fun _ => rfl⟩
      · rw [hc]
        refine .inr ⟨hfits, c, rfl, fun verify => ?_⟩
        cases verify with
        | false =>
            refine .inr ⟨fun hverify => absurd hverify Bool.false_ne_true, ?_⟩
            show done (report c) = done (report c ++ "")
            rw [String.append_empty]
        | true =>
            rcases htable with ⟨hmany, herror⟩ | ⟨hfew, t, ht, hrows, hok⟩
            · rw [herror]
              exact .inl ⟨rfl, hmany, rfl⟩
            · rw [ht, ← hrows]
              simp only [hok]
              exact .inr ⟨fun _ => hfew, rfl⟩

end Outcome

namespace Request

open Outcome

variable {σ : Type} (source : RandomSource σ) {text : List Char} {limits : Limits}

/-- Success is the absence of obstacles. -/
theorem exitCode_run_synthesize_eq_zero_iff (text : List Char) (verify : Bool)
    (limits : Limits) :
    ((synthesize text verify limits).run source).exitCode = 0 ↔
      ∃ x, Expression.read limits text = .ok x ∧ x.formula.demand ≤ limits.maxDevices ∧
        (verify = true → x.formula.letters.length ≤ limits.maxVariables) := by
  constructor
  · intro hzero
    rcases run_synthesize_cases source text limits with
      ⟨err, -, hrun⟩ | ⟨x, hread, ⟨-, hrun⟩ | ⟨hfits, c, -, hrun⟩⟩
    · rw [hrun verify] at hzero
      cases hzero
    · rw [hrun verify] at hzero
      cases hzero
    · rcases hrun verify with ⟨-, -, hrun⟩ | ⟨hfew, -⟩
      · rw [hrun] at hzero
        cases hzero
      · exact ⟨x, hread, hfits, hfew⟩
  · rintro ⟨x, hread, hfits, hfew⟩
    rcases run_synthesize_cases source text limits with
      ⟨err, herror, -⟩ | ⟨y, hread', ⟨hlarge, -⟩ | ⟨-, c, -, hrun⟩⟩
    · rw [hread] at herror
      cases herror
    · obtain rfl : x = y := Except.ok.inj (hread.symm.trans hread')
      exact absurd hfits (Nat.not_le_of_lt hlarge)
    · obtain rfl : x = y := Except.ok.inj (hread.symm.trans hread')
      rcases hrun verify with ⟨hverify, hmany, -⟩ | ⟨-, hdone⟩
      · exact absurd (hfew hverify) (Nat.not_le_of_lt hmany)
      · rw [hdone]
        rfl

/-- A failure is an obstacle, reported as it is or as that of the text. -/
theorem exists_obstacle_of_exitCode (verify : Bool)
    (h : ((synthesize text verify limits).run source).exitCode ≠ 0) :
    ∃ f err, ((synthesize text verify limits).run source).failure = some f ∧
      f.cause = .error err ∧ Context.mismatch ∉ f.contexts ∧ Obstacle text verify limits err := by
  rcases run_synthesize_cases source text limits with
    ⟨err, hread, hrun⟩ | ⟨x, hread, ⟨hlarge, hrun⟩ | ⟨hfits, c, -, hrun⟩⟩
  · rw [hrun verify]
    refine ⟨_, err, rfl, rfl, fun hmem => ?_, .unreadable hread⟩
    cases List.mem_singleton.mp hmem
  · rw [hrun verify]
    exact ⟨_, _, rfl, rfl, List.not_mem_nil, .devices hread hlarge⟩
  · rcases hrun verify with ⟨hverify, hmany, hfailed⟩ | ⟨-, hdone⟩
    · rw [hfailed]
      exact ⟨_, _, rfl, rfl, List.not_mem_nil, .columns hread hfits hverify hmany⟩
    · rw [hdone] at h
      exact absurd rfl h

/-- Checking prints no less than not checking, and the same to begin with. -/
theorem output_run_synthesize_prefix (text : List Char) (limits : Limits) :
    ((synthesize text false limits).run source).output.toList
      <+: ((synthesize text true limits).run source).output.toList := by
  rcases run_synthesize_cases source text limits with
    ⟨err, -, hrun⟩ | ⟨x, -, ⟨-, hrun⟩ | ⟨-, c, -, hrun⟩⟩
  · rw [hrun, hrun]
  · rw [hrun, hrun]
  · rcases hrun false with ⟨hverify, -⟩ | ⟨-, hplain⟩
    · exact absurd hverify Bool.false_ne_true
    · have houtput : ((synthesize text false limits).run source).output = report c := by
        rw [hplain]
        exact String.append_empty
      rw [houtput]
      rcases hrun true with ⟨-, -, hfailed⟩ | ⟨-, hdone⟩
      · rw [hfailed]
        exact List.prefix_refl _
      · rw [hdone, done, String.toList_append]
        exact List.prefix_append _ _

/-- Nothing is printed before there is a circuit. -/
theorem output_run_synthesize_eq_empty (verify : Bool)
    (h : ∀ x, Expression.read limits text = .ok x → ∃ err, x.synthesize = .error err) :
    ((synthesize text verify limits).run source).output = "" := by
  rcases run_synthesize_cases source text limits with
    ⟨err, -, hrun⟩ | ⟨x, hread, ⟨-, hrun⟩ | ⟨-, c, hc, -⟩⟩
  · rw [hrun]
    rfl
  · rw [hrun]
    rfl
  · obtain ⟨err, herror⟩ := h x hread
    rw [hc] at herror
    cases herror

end Request

end SwitchLogic.CommandLine
