import SwitchLogic.Error
import SwitchLogic.Formula.Expansion
import SwitchLogic.NameSet
import SwitchLogic.Network.Basic

/-! # Circuits

    A circuit is one complementary stage with its inverters: a pull-down
    network between output and ground, a pull-up network between supply
    and output, one inverter for every input that is used complemented,
    and possibly an inverter behind the stage.

    The pull-down network is an nmos network that follows the shape of
    an expanded formula: literals are devices, conjunctions are series
    and disjunctions parallel connections of two parts.  A complemented
    constant is accepted there, although expansion never leaves one.

    A complementary stage computes the complement of its pull-down
    network.  An outermost inversion of the formula is therefore taken
    off, and the stage supplies it; a formula without one gets an
    inverter behind the stage.  The pull-up network is the dual of the
    pull-down network. -/

namespace SwitchLogic

/-- An inverter, by the signal that it complements. -/
inductive Inverter where
  /-- The inverter of an input. -/
  | input (name : Char)
  /-- The inverter behind the stage. -/
  | output
  deriving DecidableEq

namespace Inverter

/-- The kinds of the two transistors of an inverter. -/
def devices (_ : Inverter) : List Transistor := [.pmos, .nmos]

/-- The written form of an inverter. -/
def text : Inverter → List Char
  | .input c => "inv(".toList ++ [c, ')']
  | .output => "inv(out)".toList

end Inverter

/-- A complementary stage with its inverters. -/
structure Circuit where
  /-- The formula that the pull-down network computes. -/
  core : Formula
  /-- Conducts where the core is true. -/
  pulldown : Network
  /-- Conducts where the core is false. -/
  pullup : Network
  /-- Whether an inverter follows the stage. -/
  outputInverted : Bool
  /-- The inputs that an inverter supplies complemented. -/
  invertedInputs : NameSet
  deriving DecidableEq

namespace Circuit

/-- One inverter for every complemented input, in order of the names. -/
def inputInverters (c : Circuit) : List Inverter :=
  c.invertedInputs.toList.map .input

/-- The inverter behind the stage, if there is one. -/
def outputInverter? (c : Circuit) : Option Inverter :=
  if c.outputInverted then some .output else none

/-- The word for the absence of inverters. -/
def noneText : List Char := "none".toList

/-- The written form of a circuit, one line for each of its parts. -/
def text (c : Circuit) : List Char :=
  let inputs :=
    match c.inputInverters with
    | [] => noneText
    | inverters => [',', ' '].intercalate (inverters.map Inverter.text)
  let output :=
    match c.outputInverter? with
    | some inverter => inverter.text
    | none => noneText
  "Core: ".toList ++ c.core.text
    ++ "\nPull-down: ".toList ++ c.pulldown.text
    ++ "\nPull-up: ".toList ++ c.pullup.text
    ++ "\nInput inverters: ".toList ++ inputs
    ++ "\nOutput inverter: ".toList ++ output ++ ['\n']

end Circuit

end SwitchLogic

-- ── The pull-down network of a formula ─────────────────────────────

namespace SwitchLogic.Network

/-- Connects two networks; of two failures the left one counts. -/
def connect (connection : List Network → Network) :
    Except Error Network → Except Error Network → Except Error Network
  | .error e, _ => .error e
  | .ok _, .error e => .error e
  | .ok m, .ok n => .ok (connection [m, n])

/-- The nmos network that conducts where a formula is true, or the first
    node of the formula that has no network of its own. -/
def ofFormula : Formula → Except Error Network
  | .leaf c => .ok (.device ⟨.nmos, c, false⟩)
  | .not (.leaf c) => .ok (.device ⟨.nmos, c, true⟩)
  | .not a => .error (.inconsistent (.complementOf a))
  | .binary .and a b => connect .series (ofFormula a) (ofFormula b)
  | .binary .or a b => connect .parallel (ofFormula a) (ofFormula b)
  | .binary op _ _ => .error (.inconsistent (.unexpandedNode op))

end SwitchLogic.Network

-- ── Synthesis ──────────────────────────────────────────────────────

namespace SwitchLogic

/-- The formula that seeds the pull-down network, and whether an
    inverter has to follow the stage. -/
def Formula.seed : Formula → Formula × Bool
  | .not a => (a, false)
  | .binary op a b =>
      if op.inverting then (.binary op.plain a b, false) else (.binary op a b, true)
  | e => (e, true)

/-- The circuit of a formula, unless its pull-down network would have
    more than `maxDevices` devices. -/
def Circuit.synthesize (e : Formula) (maxDevices : Nat) : Except Error Circuit :=
  let (seed, outputInverted) := e.seed
  if seed.expandedSize > maxDevices then
    .error (.networkTooLarge seed.expandedSize maxDevices)
  else
    match Network.ofFormula seed.expand with
    | .error err => .error err
    | .ok pulldown =>
        .ok ⟨seed.expand, pulldown, pulldown.dual, outputInverted, seed.invertedInputs⟩

end SwitchLogic
