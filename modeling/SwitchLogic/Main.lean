import SwitchLogic.CommandLine.Arguments
import SwitchLogic.CommandLine.Outcome

/-! # The command line

    Reads the arguments, prints the outcome, and ends with its code. -/

namespace SwitchLogic.CommandLine

/-- How the program is called. -/
def usage : String :=
  "Usage: switchlogic show EXPRESSION
       switchlogic table EXPRESSION [--hex]
       switchlogic cmos EXPRESSION [--verify]
       switchlogic fuzz [-n COUNT] [--nb-vars N] [--depth N] [--seed N]
All commands take --max-length, --max-depth, --max-vars and --max-devices.
"

/-- What is printed instead of an outcome. -/
def Refusal.message : Refusal → String
  | .helpWanted => usage
  | .versionWanted => "switchlogic 0.1.0\n"
  | .missingCommand => usage
  | .unknownCommand => "error: unknown command\n"
  | .unknownArgument => "error: unexpected argument\n"
  | .missingExpression => "error: the expression is missing\n"
  | .missingValue => "error: an option needs a value\n"
  | .unexpectedValue => "error: an option takes no value\n"
  | .invalidNumber => "error: the value of an option is not a number\n"
  | .repeatedOption => "error: an option is given twice\n"

end SwitchLogic.CommandLine

open SwitchLogic.CommandLine in
/-- Runs the program on its arguments. -/
def main (args : List String) : IO UInt32 := do
  match Request.ofArguments false (args.map String.toList) with
  | .error refusal =>
      if refusal.exitCode = 0 then IO.print (refusal.message)
      else IO.eprint (refusal.message)
      return UInt32.ofNat refusal.exitCode
  | .ok request =>
      let outcome := request.run SwitchLogic.Xoshiro.source
      IO.print outcome.output
      if let some summary := outcome.summary then IO.eprintln summary
      if let some failure := outcome.failure then
        IO.eprintln ("Error: " ++ "\nCaused by: ".intercalate failure.messages)
      return UInt32.ofNat outcome.exitCode
