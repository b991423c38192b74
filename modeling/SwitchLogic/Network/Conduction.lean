import SwitchLogic.Evaluation
import SwitchLogic.Network.Basic

/-! # Conduction

    Whether a network conducts under an assignment of its gate signals.
    A series connection conducts if all of its parts do, a parallel one
    if some part does.  The parts are tried from left to right, up to
    the first that decides, so what lies behind it is never looked at:
    neither an unassigned gate nor an empty connection there matters. -/

namespace SwitchLogic

/-- The output of an inverter: high when only its pmos conducts and low
    when only its nmos does. -/
def invert (input : Bool) : Except Error Bool :=
  match Transistor.pmos.conducts input, Transistor.nmos.conducts input with
  | true, false => .ok true
  | false, true => .ok false
  | _, _ => .error (.inconsistent .undrivenInverter)

/-- **Inverters have no faults.**  Exactly one of the two transistors
    conducts, whatever the input, and the output is its opposite. -/
@[simp] theorem invert_eq_ok (input : Bool) : invert input = .ok (!input) := by
  cases input <;> rfl

/-- The level at a gate whose signal has the given level. -/
def Device.gateLevel (d : Device) (level : Bool) : Except Error Bool :=
  if d.inverted then invert level else .ok level

/-- Whether a device conducts. -/
def Device.conducts (d : Device) (s : Assignment) : Except Error Bool :=
  match s.value d.gate with
  | .error e => .error e
  | .ok level =>
      match d.gateLevel level with
      | .error e => .error e
      | .ok gate => .ok (d.kind.conducts gate)

/-- An inverter in front of a gate complements its signal. -/
theorem Device.gateLevel_eq_ok (d : Device) (level : Bool) :
    d.gateLevel level = .ok (d.inverted ^^ level) := by
  rw [gateLevel]
  cases d.inverted <;> simp

namespace Network

mutual

/-- Whether a network conducts. -/
def conducts (s : Assignment) : Network → Except Error Bool
  | .device d => d.conducts s
  | .series parts =>
      if parts.isEmpty then .error (.inconsistent .emptyConnection)
      else allConduct s parts
  | .parallel parts =>
      if parts.isEmpty then .error (.inconsistent .emptyConnection)
      else someConducts s parts

/-- Whether all networks of a list conduct, up to the first that does
    not. -/
def allConduct (s : Assignment) : List Network → Except Error Bool
  | [] => .ok true
  | n :: rest =>
      match n.conducts s with
      | .error e => .error e
      | .ok false => .ok false
      | .ok true => allConduct s rest

/-- Whether some network of a list conducts, up to the first that
    does. -/
def someConducts (s : Assignment) : List Network → Except Error Bool
  | [] => .ok false
  | n :: rest =>
      match n.conducts s with
      | .error e => .error e
      | .ok true => .ok true
      | .ok false => someConducts s rest

end

end Network

end SwitchLogic
