import SwitchLogic.Circuit.Basic
import SwitchLogic.Formula.Reading
import SwitchLogic.Lexing
import SwitchLogic.TruthTable

/-! # Expressions

    An expression is a text that was read: its canonical form, the
    formula that it writes, the formula's variables, and the limits that
    held while reading and still hold for what is made of it. -/

namespace SwitchLogic

/-- A text that was read successfully. -/
structure Expression where
  source : List Char
  canonical : List Char
  letters : List Char
  formula : Formula
  limits : Limits

namespace Expression

/-- Reads a text: brings it into canonical form, checks its length, cuts
    it into tokens and reads the formula. -/
def read (limits : Limits) (source : List Char) : Except Error Expression :=
  let canonical := Spelling.canonical source
  if canonical.length > limits.maxLength then
    .error (.inputTooLong canonical.length limits.maxLength)
  else
    match Token.ofText canonical with
    | .error e => .error e
    | .ok tokens =>
        match Formula.ofTokens limits.maxDepth tokens with
        | .error e => .error e
        | .ok formula => .ok ⟨source, canonical, formula.letters, formula, limits⟩

/-- The truth table over the expression's own variables. -/
def truthTable (x : Expression) : Except Error TruthTable :=
  TruthTable.build x.formula x.letters x.limits.maxVariables

/-- The circuit of an expression. -/
def synthesize (x : Expression) : Except Error Circuit :=
  Circuit.synthesize x.formula x.limits.maxDevices

end Expression

end SwitchLogic
