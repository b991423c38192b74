import SwitchLogic.Evaluation

/-! # Truth tables

    The table of a formula over a list of columns has one row for every
    combination of input values, in binary counting order with the first
    column most significant.  Columns may be given in any order, with
    repetitions, and with names that the formula does not use. -/

namespace SwitchLogic

/-- A truth table: its columns and the output of every row. -/
structure TruthTable where
  columns : List Char
  outputs : Array Bool
  size_outputs : outputs.size = Nat.pow 2 columns.length

/-- One row of a truth table. -/
structure TruthRow where
  index : Nat
  inputs : List Bool
  output : Bool
  deriving DecidableEq

namespace TruthTable

/-- Applies a function that may fail to the elements of a list, up to
    the first failure. -/
def collect (f : Nat → Except Error Bool) : List Nat → Except Error (List Bool)
  | [] => .ok []
  | i :: rest =>
      match f i with
      | .error e => .error e
      | .ok v =>
          match collect f rest with
          | .error e => .error e
          | .ok vs => .ok (v :: vs)

/-- One value is collected for each row. -/
theorem length_of_collect {f : Nat → Except Error Bool} {is : List Nat} {vs : List Bool}
    (h : collect f is = .ok vs) : vs.length = is.length := by
  induction is generalizing vs with
  | nil => cases h; rfl
  | cons i rest ih =>
      simp only [collect] at h
      split at h
      · cases h
      · split at h
        · cases h
        · rename_i hrest
          cases h
          simp [ih hrest]

/-- The table of a formula over the given columns. -/
def build (e : Formula) (columns : List Char) (maxVariables : Nat) :
    Except Error TruthTable :=
  if columns.length > maxVariables then
    .error (.tooManyVariables columns.length maxVariables)
  else
    match h : collect (fun i => e.evaluate (Assignment.ofRow columns i))
        (List.range (Nat.pow 2 columns.length)) with
    | .error err => .error err
    | .ok outputs =>
        .ok ⟨columns, outputs.toArray, by simpa using length_of_collect h⟩

/-- Number of rows. -/
def rowCount (t : TruthTable) : Nat := t.outputs.size

/-- A row by its index, if the table has that row. -/
def row? (t : TruthTable) (i : Nat) : Option TruthRow :=
  t.outputs[i]?.map fun v => ⟨i, Assignment.rowInputs t.columns.length i, v⟩

/-- All rows in order. -/
def rows (t : TruthTable) : List TruthRow :=
  (List.range t.rowCount).filterMap t.row?

/-- Whether the output is true in every row. -/
def isTautology (t : TruthTable) : Bool := t.outputs.all id

/-- Whether the output is false in every row. -/
def isContradiction (t : TruthTable) : Bool := t.outputs.all (!·)

-- ── Hexadecimal form ───────────────────────────────────────────────

/-- The hexadecimal digit of four bits, least significant first. -/
def hexDigit (a b c d : Bool) : Char :=
  Nat.digitChar (a.toNat + 2 * b.toNat + 4 * c.toNat + 8 * d.toNat)

/-- Hexadecimal digits of a list of bits, least significant bit first,
    in front of digits already written. -/
def hexBefore : List Bool → List Char → List Char
  | a :: b :: c :: d :: rest, digits => hexBefore rest (hexDigit a b c d :: digits)
  | [a, b, c], digits => hexDigit a b c false :: digits
  | [a, b], digits => hexDigit a b false false :: digits
  | [a], digits => hexDigit a false false false :: digits
  | [], digits => digits

/-- The output column as a hexadecimal number in which row `i` is bit
    `i`, with one digit for every four rows. -/
def hex (t : TruthTable) : List Char := hexBefore t.outputs.toList []

-- ── Written form ───────────────────────────────────────────────────

/-- A line of the written form: the input columns, then the output. -/
def line (inputs : List (List Char)) (output : List Char) : List Char :=
  match inputs with
  | [] => output ++ ['\n']
  | _ => [' '].intercalate inputs ++ (" | ".toList ++ (output ++ ['\n']))

/-- The digit of a value. -/
def bit (v : Bool) : Char := if v then '1' else '0'

/-- The written form of a table: a line with the columns' names in
    capitals, and one line for each row. -/
def text (t : TruthTable) : List Char :=
  line (t.columns.map fun c => [Signal.capital c]) "Out".toList
    ++ t.rows.flatMap fun r => line (r.inputs.map fun v => [bit v]) [bit r.output]

end TruthTable

end SwitchLogic
