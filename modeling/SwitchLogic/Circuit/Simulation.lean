import SwitchLogic.Circuit.Basic
import SwitchLogic.Network.Conduction
import SwitchLogic.TruthTable

/-! # Simulation

    The output of a stage is high when only the pull-up network
    conducts and low when only the pull-down network does; anything else
    is a fault.  A circuit is checked against a truth table by its wiring
    first, and then row by row. -/

namespace SwitchLogic.Circuit

/-- The output of a circuit under an assignment of its inputs. -/
def output (c : Circuit) (s : Assignment) : Except Error Bool :=
  match c.pulldown.conducts s with
  | .error e => .error e
  | .ok down =>
      match c.pullup.conducts s with
      | .error e => .error e
      | .ok up =>
          match up, down with
          | true, true => .error (.inconsistent .shortCircuit)
          | false, false => .error (.inconsistent .floatingOutput)
          | stage, _ => if c.outputInverted then invert stage else .ok stage

/-- The first device that takes a complemented input without an
    inverter. -/
def unsupplied? (c : Circuit) : Option Device :=
  (c.pulldown.devices ++ c.pullup.devices).find? fun d =>
    d.inverted && !c.invertedInputs.contains d.gate

/-- Compares the output of a circuit with the expected values of the
    rows from `row` on. -/
def checkRows (c : Circuit) (columns : List Char) (row : Nat) :
    List Bool → Except Error Unit
  | [] => .ok ()
  | expected :: rest =>
      match c.output (Assignment.ofRow columns row) with
      | .error e => .error e
      | .ok v =>
          if v = expected then checkRows c columns (row + 1) rest
          else .error (.inconsistent (.differsAtRow row))

/-- Checks that a circuit computes a truth table. -/
def verify (c : Circuit) (t : TruthTable) : Except Error Unit :=
  match c.unsupplied? with
  | some d => .error (.inconsistent (.missingInverter d))
  | none => c.checkRows t.columns 0 t.outputs.toList

end SwitchLogic.Circuit
