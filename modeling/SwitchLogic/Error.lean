import SwitchLogic.Formula.Text
import SwitchLogic.Network.Basic
import SwitchLogic.Symbols

/-! # Limits and errors

    Limits bound the work spent on one expression.  A limit is exceeded
    when the bounded quantity is greater than it.

    An error is one of the ways in which reading, evaluating,
    synthesizing or simulating can fail, as a cause with its
    particulars, and every cause has one message.  A fault is a failure
    that the other parts of the library are meant to rule out: it is met
    on hand-made tokens, formulas or circuits. -/

namespace SwitchLogic

-- ── Limits ─────────────────────────────────────────────────────────

/-- The greatest count that fits in 64 bits. -/
def largestCount : Nat := 18446744073709551615

/-- The limits of an expression, with their usual values. -/
structure Limits where
  /-- Characters in the canonical form of the text. -/
  maxLength : Nat := 4096
  /-- Parentheses and leading complements open at one point. -/
  maxDepth : Nat := 256
  /-- Columns of a truth table. -/
  maxVariables : Nat := 16
  /-- Devices in a pull-down network. -/
  maxDevices : Nat := 65536
  deriving DecidableEq

/-- The limits used when none are given. -/
def Limits.standard : Limits := {}

/-- The limits that no 64-bit count exceeds. -/
def Limits.unbounded : Limits :=
  ⟨largestCount, largestCount, largestCount, largestCount⟩

-- ── Errors ─────────────────────────────────────────────────────────

/-- Inconsistencies of hand-made data. -/
inductive Fault where
  /-- An operand token without a text. -/
  | unnamedOperand (position : Nat)
  /-- A complement of something other than a leaf, where only literals are allowed. -/
  | complementOf (operand : Formula)
  /-- A connective other than the plain conjunction and disjunction. -/
  | unexpandedNode (op : Connective)
  /-- A series or parallel connection of nothing. -/
  | emptyConnection
  /-- An inverter is not driven to a single rail. -/
  | undrivenInverter
  /-- Both networks of a stage conduct. -/
  | shortCircuit
  /-- Neither network of a stage conducts. -/
  | floatingOutput
  /-- A device takes a complemented signal that no inverter supplies. -/
  | missingInverter (device : Device)
  /-- A circuit and a truth table disagree. -/
  | differsAtRow (row : Nat)
  deriving DecidableEq

/-- Causes of failure. -/
inductive Error where
  | unknownCharacter (character : Char) (position : Nat)
  | unexpectedEnd
  | missingClosing
  | unexpectedToken (token : Token)
  | trailingTokens
  | inputTooLong (length limit : Nat)
  | nestingTooDeep (limit : Nat)
  | tooManyVariables (found limit : Nat)
  | networkTooLarge (devices limit : Nat)
  | unassignedVariable (name : Char)
  | inconsistent (fault : Fault)
  deriving DecidableEq

/-- The message of a fault. -/
def Fault.message : Fault → String
  | .unnamedOperand p => "empty variable token at position " ++ toString p
  | .complementOf a =>
      "complement of " ++ toString a ++ " in an expression that should be expanded"
  | .unexpandedNode op =>
      toString op ++ " node in an expression that should be expanded"
  | .emptyConnection => "Empty series or parallel connection"
  | .undrivenInverter => "Inverter output is not driven to a single rail"
  | .shortCircuit => "Pull-up and pull-down networks both conduct"
  | .floatingOutput => "Stage output is floating"
  | .missingInverter d => "No input inverter for device " ++ String.ofList d.text
  | .differsAtRow i =>
      "Circuit output differs from the truth table at row " ++ toString i

/-- The message of an error. -/
def Error.message : Error → String
  | .unknownCharacter c p =>
      "Unknown character '" ++ c.toString ++ "' at position " ++ toString p
  | .unexpectedEnd => "Unexpected end of expression"
  | .missingClosing => "Expected closing parenthesis"
  | .unexpectedToken t => "Unexpected token: " ++ String.ofList t.text
  | .trailingTokens => "Unexpected tokens at end of expression"
  | .inputTooLong n limit =>
      "Expression is " ++ toString n ++ " characters long, the limit is " ++ toString limit
  | .nestingTooDeep limit => "Expression nesting exceeds " ++ toString limit ++ " levels"
  | .tooManyVariables n limit =>
      "Expression has " ++ toString n ++ " variables, the limit is " ++ toString limit
  | .networkTooLarge n limit =>
      "Synthesized network would have " ++ toString n
        ++ " devices, the limit is " ++ toString limit
  | .unassignedVariable c => "Variable '" ++ c.toString ++ "' is not assigned"
  | .inconsistent fault => "Internal consistency fault: " ++ fault.message

end SwitchLogic
