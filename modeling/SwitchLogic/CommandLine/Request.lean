import SwitchLogic.Error

/-! # Requests

    What the command line can be asked to do.  Three commands work on an
    expression: `show` prints what was read, `table` its truth table,
    and `cmos` its circuit.  The fourth, `fuzz`, checks the synthesis on
    random formulas. -/

namespace SwitchLogic.CommandLine

/-- A run of checks on random formulas, one for each seed from `seed`
    on. -/
structure Campaign where
  count : Nat := 1000
  letters : Nat := 4
  depth : Nat := 6
  seed : Nat := 1
  deriving DecidableEq

/-- A well-formed command line. -/
inductive Request where
  | describe (text : List Char) (limits : Limits)
  | tabulate (text : List Char) (hex : Bool) (limits : Limits)
  | synthesize (text : List Char) (verify : Bool) (limits : Limits)
  | check (campaign : Campaign) (limits : Limits)
  deriving DecidableEq

/-- Why a command line is not a request. -/
inductive Refusal where
  | helpWanted
  | versionWanted
  | missingCommand
  | unknownCommand
  | unknownArgument
  | missingExpression
  | missingValue
  | unexpectedValue
  | invalidNumber
  | repeatedOption
  deriving DecidableEq

/-- The exit code of a refusal: help and version are no failures. -/
def Refusal.exitCode : Refusal → Nat
  | .helpWanted => 0
  | .versionWanted => 0
  | _ => 2

end SwitchLogic.CommandLine
