import SwitchLogic.Circuit.Basic

/-! # Statistics

    Transistors of both kinds are counted over the two networks and all
    inverters. -/

namespace SwitchLogic

/-- Counts of the parts of a circuit. -/
structure Statistics where
  nmos : Nat
  pmos : Nat
  inputInverters : Nat
  outputInverter : Bool
  pulldownStack : Nat
  pullupStack : Nat
  deriving DecidableEq

/-- The transistors of a circuit: those of both networks, then those of
    the inverters. -/
def Circuit.transistors (c : Circuit) : List Transistor :=
  (c.pulldown.devices ++ c.pullup.devices).map (·.kind)
    ++ (c.inputInverters ++ c.outputInverter?.toList).flatMap Inverter.devices

/-- The statistics of a circuit. -/
def Circuit.statistics (c : Circuit) : Statistics where
  nmos := c.transistors.count .nmos
  pmos := c.transistors.count .pmos
  inputInverters := c.invertedInputs.toList.length
  outputInverter := c.outputInverted
  pulldownStack := c.pulldown.stackHeight
  pullupStack := c.pullup.stackHeight

namespace Statistics

/-- Number of transistors of both kinds. -/
def transistors (s : Statistics) : Nat := s.nmos + s.pmos

/-- Number of inverters. -/
def inverters (s : Statistics) : Nat := s.inputInverters + s.outputInverter.toNat

/-- A line that names a count. -/
def line (label : String) (n : Nat) : String := label ++ toString n ++ "\n"

/-- The written form of the statistics.  Inverters are left out where
    there are none. -/
def text (s : Statistics) : String :=
  "Stats:\n"
    ++ line "  Transistors: " s.transistors
    ++ line "      nmos: " s.nmos
    ++ line "      pmos: " s.pmos
    ++ (if s.inverters = 0 then "" else
      line "  Inverters: " s.inverters
        ++ (if s.inputInverters = 0 then "" else line "      input: " s.inputInverters)
        ++ (if s.outputInverter then line "      output: " 1 else ""))
    ++ "  Stack height:\n"
    ++ line "      pull-down: " s.pulldownStack
    ++ line "      pull-up: " s.pullupStack

end Statistics

end SwitchLogic
