import SwitchLogic.CommandLine.Request

/-! # Arguments

    The arguments are read from left to right.  An option with a value
    takes it from behind an equals sign or from the next argument; the
    value is judged when the next option or the expression arrives, or
    at the end.  Of several mistakes the first one met counts, and a
    word that cannot be placed at all is met before the value of the
    option in front of it.  Behind `--` every argument is taken as it
    is. -/

namespace SwitchLogic.CommandLine

/-- The commands. -/
inductive Command where
  | show
  | table
  | cmos
  | fuzz
  deriving DecidableEq

/-- The command that a word names, by its name or an alias. -/
def Command.ofWord? (word : List Char) : Option Command :=
  if word = "show".toList then some .show
  else if word = "table".toList || word = "tt".toList then some .table
  else if word = "cmos".toList || word = "synth".toList then some .cmos
  else if word = "fuzz".toList then some .fuzz
  else none

/-- Whether a command works on an expression. -/
def Command.takesExpression (command : Command) : Bool := command ≠ .fuzz

/-- The name of the option without a value that a command has. -/
def Command.switch? : Command → Option (List Char)
  | .table => some "hex".toList
  | .cmos => some "verify".toList
  | _ => none

/-- The options with a number as their value. -/
inductive NumberOption where
  | maxLength
  | maxDepth
  | maxVariables
  | maxDevices
  | count
  | letters
  | depth
  | seed
  deriving DecidableEq

/-- The option of a command that a name stands for.  The limits are
    options of every command. -/
def NumberOption.ofName? (command : Command) (name : List Char) : Option NumberOption :=
  if name = "max-length".toList then some .maxLength
  else if name = "max-depth".toList then some .maxDepth
  else if name = "max-vars".toList then some .maxVariables
  else if name = "max-devices".toList then some .maxDevices
  else if command ≠ .fuzz then none
  else if name = "count".toList then some .count
  else if name = "nb-vars".toList then some .letters
  else if name = "depth".toList then some .depth
  else if name = "seed".toList then some .seed
  else none

/-- The number that a value writes: decimal digits, possibly behind a
    plus sign, up to the greatest 64-bit count. -/
def number? (value : List Char) : Option Nat :=
  let digits := match value with
    | '+' :: rest => rest
    | _ => value
  if digits.isEmpty || !digits.all Char.isDigit then none
  else
    let n := digits.foldl (fun n c => 10 * n + (c.toNat - '0'.toNat)) 0
    if n ≤ largestCount then some n else none

/-- What the arguments read so far have given. -/
structure Given where
  expression : Option (List Char) := none
  switched : Bool := false
  numbers : List (NumberOption × Nat) := []
  /-- The last option, with its value if that has arrived. -/
  pending : Option (NumberOption × Option (List Char)) := none

namespace Given

/-- The number given for an option. -/
def number? (g : Given) (option : NumberOption) : Option Nat := g.numbers.lookup option

/-- Records an option with its value, if there is one. -/
def record (g : Given) (option : NumberOption) (value : Option (List Char)) :
    Except Refusal Given :=
  match value with
  | none => .error .missingValue
  | some text =>
      if (g.number? option).isSome then .error .repeatedOption
      else match CommandLine.number? text with
        | none => .error .invalidNumber
        | some n => .ok { g with numbers := (option, n) :: g.numbers }

/-- Records the last option, which no further argument can belong to. -/
def settle (g : Given) : Except Refusal Given :=
  match g.pending with
  | none => .ok g
  | some (option, value) => { g with pending := none }.record option value

/-- Ends with a refusal, unless the last option has a mistake of its
    own. -/
def refuse (g : Given) (refusal : Refusal) : Except Refusal Given :=
  match g.settle with
  | .error e => .error e
  | .ok _ => .error refusal

/-- Takes an option whose value stands in the same argument. -/
def takeAttached (g : Given) (option : NumberOption) (value : List Char) :
    Except Refusal Given :=
  match g.settle with
  | .error e => .error e
  | .ok g => g.record option (some value)

/-- Takes an option whose value is still to come. -/
def takeOpen (g : Given) (option : NumberOption) : Except Refusal Given :=
  match g.settle with
  | .error e => .error e
  | .ok g => .ok { g with pending := some (option, none) }

/-- Takes the option without a value. -/
def takeSwitch (g : Given) : Except Refusal Given :=
  match g.settle with
  | .error e => .error e
  | .ok g => if g.switched then .error .repeatedOption else .ok { g with switched := true }

/-- Takes an argument as the expression. -/
def takeExpression (command : Command) (g : Given) (word : List Char) :
    Except Refusal Given :=
  if command.takesExpression && g.expression.isNone then
    match g.settle with
    | .error e => .error e
    | .ok g => .ok { g with expression := some word }
  else .error .unknownArgument

/-- Takes an argument behind two dashes: a name, and a value if an
    equals sign follows the name. -/
def takeLong (command : Command) (g : Given) (word : List Char) : Except Refusal Given :=
  let name := word.takeWhile (· ≠ '=')
  let attached := (word.dropWhile (· ≠ '=')).tail?
  match NumberOption.ofName? command name, attached with
  | some option, some value => g.takeAttached option value
  | some option, none => g.takeOpen option
  | none, _ =>
      let isHelp : Bool := name = "help".toList
      let isVersion : Bool := name = "version".toList
      let isSwitch : Bool := some name = command.switch?
      if !(isHelp || isVersion || isSwitch) then .error .unknownArgument
      else if attached.isSome then .error .unexpectedValue
      else if isHelp then g.refuse .helpWanted
      else if isVersion then g.refuse .versionWanted
      else g.takeSwitch

/-- Takes the letters behind a single dash.  Only the number of checks
    has a letter of its own that takes a value, which is the rest of the
    argument, without an equals sign in front. -/
def takeShort (command : Command) (g : Given) (letters : List Char) :
    Except Refusal Given :=
  match letters with
  | 'h' :: _ => g.refuse .helpWanted
  | 'V' :: _ => g.refuse .versionWanted
  | 'n' :: value =>
      if command ≠ .fuzz then .error .unknownArgument
      else match value with
        | [] => g.takeOpen .count
        | '=' :: rest => g.takeAttached .count rest
        | _ => g.takeAttached .count value
  | _ => .error .unknownArgument

/-- Takes an argument without a dash: the value of the last option if
    that is still to come, otherwise the expression. -/
def takeWord (command : Command) (g : Given) (word : List Char) : Except Refusal Given :=
  match g.pending with
  | some (option, none) => .ok { g with pending := some (option, some word) }
  | _ => g.takeExpression command word

/-- Takes all arguments, `literal` saying whether `--` stood before
    them. -/
def takeAll (command : Command) (literal : Bool) (g : Given) :
    List (List Char) → Except Refusal Given
  | [] => g.settle
  | word :: rest =>
      if !literal && word = ['-', '-'] then takeAll command true g rest
      else
        let taken :=
          if literal then g.takeExpression command word
          else match word with
            | '-' :: '-' :: name => g.takeLong command name
            | '-' :: c :: letters => g.takeShort command (c :: letters)
            | _ => g.takeWord command word
        match taken with
        | .error e => .error e
        | .ok g => takeAll command literal g rest

/-- The limits that were given, with the usual values for the others. -/
def limits (g : Given) : Limits where
  maxLength := (g.number? .maxLength).getD Limits.standard.maxLength
  maxDepth := (g.number? .maxDepth).getD Limits.standard.maxDepth
  maxVariables := (g.number? .maxVariables).getD Limits.standard.maxVariables
  maxDevices := (g.number? .maxDevices).getD Limits.standard.maxDevices

/-- The campaign that was given, with the usual values for the rest. -/
def campaign (g : Given) : Campaign :=
  let usual : Campaign := {}
  { count := (g.number? .count).getD usual.count
    letters := (g.number? .letters).getD usual.letters
    depth := (g.number? .depth).getD usual.depth
    seed := (g.number? .seed).getD usual.seed }

/-- The request of a command with its arguments. -/
def request (command : Command) (g : Given) : Except Refusal Request :=
  match command, g.expression with
  | .fuzz, _ => .ok (.check g.campaign g.limits)
  | _, none => .error .missingExpression
  | .show, some text => .ok (.describe text g.limits)
  | .table, some text => .ok (.tabulate text g.switched g.limits)
  | .cmos, some text => .ok (.synthesize text g.switched g.limits)

end Given

/-- Whether a word may stand behind `help`: the commands may, and `help`
    itself, each as the only word, since no command has commands of its
    own. -/
def helpTopics (words : List (List Char)) : Bool :=
  match words with
  | [] => true
  | [word] => word = "help".toList || (Command.ofWord? word).isSome
  | _ => false

/-- The request that the arguments make, `literal` saying whether `--`
    stood before them. -/
def Request.ofArguments (literal : Bool) : List (List Char) → Except Refusal Request
  | [] => .error .missingCommand
  | word :: rest =>
      let isHelp : Bool := word = "help".toList
      if literal then
        if isHelp || (Command.ofWord? word).isSome then .error .unknownArgument
        else .error .unknownCommand
      else if word = ['-', '-'] then Request.ofArguments true rest
      else match Command.ofWord? word, word with
        | some command, _ =>
            match Given.takeAll command false {} rest with
            | .error e => .error e
            | .ok g => g.request command
        | none, '-' :: '-' :: text =>
            let name := text.takeWhile (· ≠ '=')
            if name ≠ "help".toList && name ≠ "version".toList then .error .unknownArgument
            else if text.contains '=' then .error .unexpectedValue
            else if name = "help".toList then .error .helpWanted
            else .error .versionWanted
        | none, '-' :: 'h' :: _ => .error .helpWanted
        | none, '-' :: 'V' :: _ => .error .versionWanted
        | none, '-' :: _ :: _ => .error .unknownArgument
        | none, _ =>
            if isHelp then
              if helpTopics rest then .error .helpWanted else .error .unknownCommand
            else .error .unknownCommand

end SwitchLogic.CommandLine
