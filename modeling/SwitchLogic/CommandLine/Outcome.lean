import SwitchLogic.Circuit.Simulation
import SwitchLogic.Circuit.Statistics
import SwitchLogic.CommandLine.Request
import SwitchLogic.Expression
import SwitchLogic.Formula.Latex
import SwitchLogic.Formula.Generation
import SwitchLogic.Text.Quoting

/-! # Outcomes

    What a request prints, and how it ends.  Output that was printed
    before a failure stays printed. -/

namespace SwitchLogic.CommandLine

/-- What a failure is reported as part of. -/
inductive Context where
  | unreadable (text : List Char)
  | mismatch
  | failedSynthesis (formula : Formula)

/-- The cause at the root of a failure. -/
inductive Cause where
  | error (e : Error)
  | letterCount
  | noDepth

/-- A failure: its cause, and its contexts from the outermost on. -/
structure Failure where
  contexts : List Context
  cause : Cause

/-- The message of a context. -/
def Context.message : Context → String
  | .unreadable text => "Could not parse expression " ++ String.ofList (Text.quote text)
  | .mismatch => "Synthesized circuit does not match the truth table"
  | .failedSynthesis e => "Synthesis failed for " ++ toString e

/-- The message of a cause. -/
def Cause.message : Cause → String
  | .error e => e.message
  | .letterCount => "Number of variables must be between 1 and 26"
  | .noDepth => "Depth must be at least 1"

/-- The messages of a failure, outermost first. -/
def Failure.messages (f : Failure) : List String :=
  f.contexts.map Context.message ++ [f.cause.message]

/-- What a request printed, a closing summary for some requests, and the
    failure it ended with, if any. -/
structure Outcome where
  output : String
  summary : Option String
  failure : Option Failure

namespace Outcome

/-- The exit code. -/
def exitCode (o : Outcome) : Nat := if o.failure.isSome then 1 else 0

/-- Success after some output. -/
def done (output : String) : Outcome := ⟨output, none, none⟩

/-- Failure after some output. -/
def failed (output : String) (contexts : List Context) (e : Error) : Outcome :=
  ⟨output, none, some ⟨contexts, .error e⟩⟩

/-- Reads an expression and goes on with it. -/
def withExpression (text : List Char) (limits : Limits) (next : Expression → Outcome) :
    Outcome :=
  match Expression.read limits text with
  | .error e => failed "" [.unreadable text] e
  | .ok x => next x

/-- A line of text. -/
def line (label : String) (text : List Char) : String := label ++ String.ofList text ++ "\n"

/-- Prints what was read. -/
def describe (x : Expression) : Outcome :=
  done (line "Normalized: " x.canonical
    ++ line "Expression: " x.formula.text
    ++ line "Variables: " ([',', ' '].intercalate (x.letters.map ([·])))
    ++ ("Nodes: " ++ toString x.formula.size ++ ", depth: "
      ++ toString x.formula.depth ++ "\n")
    ++ line "LaTeX: " x.formula.latex)

/-- Prints the truth table. -/
def tabulate (hex : Bool) (x : Expression) : Outcome :=
  match x.truthTable with
  | .error e => failed "" [] e
  | .ok t =>
      done (String.ofList t.text ++ (if hex then line "Hex: 0x" t.hex else ""))

/-- Prints the circuit, and checks it against the truth table if asked
    to. -/
def synthesize (verify : Bool) (x : Expression) : Outcome :=
  match x.synthesize with
  | .error e => failed "" [] e
  | .ok c =>
      let report := String.ofList c.text ++ c.statistics.text
      if verify then
        match x.truthTable with
        | .error e => failed report [] e
        | .ok t =>
            match c.verify t with
            | .error e => failed report [.mismatch] e
            | .ok () =>
                done (report ++ ("Circuit matches the truth table ("
                  ++ toString t.rowCount ++ " rows)\n"))
      else done report

section

variable {σ : Type}

/-- Checks the formulas of `count` seeds from `seed` on, and counts those
    that are too large to synthesize. -/
def countSkipped (source : RandomSource σ) (size : Formula.SampleSize) (limits : Limits) :
    (count : Nat) → (seed : UInt64) → (skipped : Nat) → Except Failure Nat
  | 0, _, skipped => .ok skipped
  | count + 1, seed, skipped =>
      let e := Formula.sample source size seed
      match Circuit.synthesize e limits.maxDevices with
      | .error (.networkTooLarge _ _) =>
          countSkipped source size limits count (seed + 1) (skipped + 1)
      | .error err => .error ⟨[], .error err⟩
      | .ok c =>
          match TruthTable.build e e.letters limits.maxVariables with
          | .error err => .error ⟨[], .error err⟩
          | .ok t =>
              match c.verify t with
              | .error err => .error ⟨[.failedSynthesis e], .error err⟩
              | .ok () => countSkipped source size limits count (seed + 1) skipped

/-- Runs a campaign of checks. -/
def check (source : RandomSource σ) (campaign : Campaign) (limits : Limits) : Outcome :=
  if letters : 0 < campaign.letters ∧ campaign.letters ≤ 26 then
    if depth : 0 < campaign.depth then
      let size : Formula.SampleSize :=
        ⟨campaign.letters, campaign.depth, letters.1, letters.2, depth⟩
      match countSkipped source size limits campaign.count (UInt64.ofNat campaign.seed) 0 with
      | .error failure => ⟨"", none, some failure⟩
      | .ok skipped =>
          ⟨"", some ("Checked " ++ toString (campaign.count - skipped)
            ++ " expressions, skipped " ++ toString skipped
            ++ " too large to synthesize"), none⟩
    else ⟨"", none, some ⟨[], .noDepth⟩⟩
  else ⟨"", none, some ⟨[], .letterCount⟩⟩

end

end Outcome

/-- Carries out a request.  Only a campaign draws from the source. -/
def Request.run {σ : Type} (source : RandomSource σ) : Request → Outcome
  | .describe text limits => .withExpression text limits .describe
  | .tabulate text hex limits => .withExpression text limits (.tabulate hex)
  | .synthesize text verify limits => .withExpression text limits (.synthesize verify)
  | .check campaign limits => .check source campaign limits

end SwitchLogic.CommandLine
