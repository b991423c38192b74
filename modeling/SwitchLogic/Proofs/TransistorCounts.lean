import Mathlib.Data.Finset.Card
import Mathlib.Data.Finset.Filter
import SwitchLogic.Proofs.FixedPoints
import SwitchLogic.Proofs.StackHeight
import SwitchLogic.Proofs.Structure

/-! # The number of transistors

    Transistors are counted one by one, over the devices of both networks
    and over the inverters.  Duality makes the two kinds equally many: a
    device of one kind in the pull-down network has a device of the other
    kind in the pull-up network, so each kind is met once for every device
    of the pull-down network, and an inverter has one of each kind.

    For a synthesized circuit the count can be read off the formula: its
    size, the inputs that its expansion complements, and whether its root
    supplies the inversion of the stage. -/

namespace SwitchLogic

-- ── Counting by kind ───────────────────────────────────────────────

namespace Transistor

/-- Exchanging the kinds exchanges their numbers. -/
theorem count_map_dual (kinds : List Transistor) (k : Transistor) :
    (kinds.map dual).count k = kinds.count k.dual := by
  induction kinds with
  | nil => rfl
  | cons k' rest ih =>
      rw [List.map_cons, List.count_cons, List.count_cons, ih]
      cases k <;> cases k' <;> rfl

/-- Every transistor is of one kind or the other. -/
theorem count_add_count_dual (kinds : List Transistor) (k : Transistor) :
    kinds.count k + kinds.count k.dual = kinds.length := by
  induction kinds with
  | nil => rfl
  | cons k' rest ih =>
      rw [List.count_cons, List.count_cons, List.length_cons]
      cases k <;> cases k' <;> simp [dual] at ih ⊢ <;> omega

end Transistor

/-- **A network and its dual have both kinds in equal number**, whatever
    the kinds in the network itself. -/
theorem Network.count_devices_dual (n : Network) (k : Transistor) :
    ((n.devices ++ n.dual.devices).map (·.kind)).count k = n.deviceCount := by
  have hkinds : n.dual.devices.map (·.kind) = (n.devices.map (·.kind)).map Transistor.dual := by
    rw [devices_dual, List.map_map, List.map_map]
    rfl
  rw [List.map_append, List.count_append, hkinds, Transistor.count_map_dual,
    Transistor.count_add_count_dual, List.length_map, deviceCount_eq_length]

/-- An inverter has one transistor of each kind. -/
theorem Inverter.count_devices (inverters : List Inverter) (k : Transistor) :
    (inverters.flatMap devices).count k = inverters.length := by
  induction inverters with
  | nil => rfl
  | cons i rest ih =>
      rw [List.flatMap_cons, List.count_append, ih, List.length_cons, Nat.add_comm]
      cases k <;> rfl

namespace Circuit

/-- There is one output inverter or none. -/
theorem length_outputInverter? (c : Circuit) :
    c.outputInverter?.toList.length = c.outputInverted.toNat := by
  unfold outputInverter?
  cases c.outputInverted <;> rfl

/-- **Each kind is met once for every device and once for every
    inverter**, in any circuit whose pull-up network is the dual. -/
theorem count_transistors {c : Circuit} (h : c.pullup = c.pulldown.dual) (k : Transistor) :
    c.transistors.count k
      = c.pulldown.deviceCount + c.invertedInputs.toList.length + c.outputInverted.toNat := by
  rw [transistors, h, List.count_append, Network.count_devices_dual, Inverter.count_devices,
    List.length_append, length_outputInverter?, inputInverters, List.length_map, Nat.add_assoc]

end Circuit

-- ── Inverters of a formula ─────────────────────────────────────────

namespace Formula

/-- The names, constants apart, that stand complemented in the expansion
    of the seed. -/
def complementedInputs (e : Formula) : Finset Char :=
  {x ∈ e.seed.1.expand.complementedLeaves.toFinset | Signal.constant? x = none}

/-- The number of inverters behind the stage: none where the root is an
    inversion, and one under any other root. -/
def outputInverters : Formula → Nat
  | .not _ => 0
  | .binary .nand _ _ => 0
  | .binary .nor _ _ => 0
  | .binary .xnor _ _ => 0
  | _ => 1

/-- An inverter follows the stage where the formula has no outermost
    inversion. -/
theorem outputInverters_eq (e : Formula) : e.outputInverters = e.seed.2.toNat := by
  cases e with
  | leaf c => rfl
  | not a => rfl
  | binary op a b =>
      obtain ⟨f, inverting⟩ := op
      cases f <;> cases inverting <;> rfl

end Formula

namespace Circuit

variable {e : Formula} {maxDevices : Nat} {c : Circuit}

/-- The inverted inputs are the names that the expansion complements,
    each listed once. -/
theorem length_invertedInputs (hc : synthesize e maxDevices = .ok c) :
    c.invertedInputs.toList.length = e.complementedInputs.card := by
  have hnodup : c.invertedInputs.toList.Nodup :=
    c.invertedInputs.increasing.imp fun hlt => Char.ne_of_lt hlt
  have hform : e.seed.1.expand.isExpanded = true := Formula.isExpanded_expandUnder e.seed.1 false
  have hset : c.invertedInputs.toList.toFinset = e.complementedInputs := by
    ext x
    rw [List.mem_toFinset, Formula.complementedInputs, Finset.mem_filter, List.mem_toFinset,
      Formula.mem_complementedLeaves hform, ← Formula.mem_invertedInputs]
    obtain ⟨-, -, -, -, -, hinverted⟩ := synthesize_eq_ok hc
    rw [← hinverted]
    show x ∈ c.invertedInputs ↔ x ∈ c.invertedInputs ∧ Signal.constant? x = none
    constructor
    · intro hx
      exact ⟨hx, constant?_of_mem_invertedInputs hc hx⟩
    · intro hx
      exact hx.1
  rw [← hset, List.toFinset_card_of_nodup hnodup]

/-- **The statistics of a synthesized circuit can be read off its
    formula.**  Each kind has as many transistors as the size of the
    formula and the number of inverters together.  There is an inverter
    for every variable that the expansion of the seed complements, and one
    behind the stage unless the root of the formula is an inversion. -/
theorem statistics_of_synthesize (hc : synthesize e maxDevices = .ok c) :
    let n := ((e.exclusivesAbove 0).map (2 ^ ·)).sum
    let i := e.complementedInputs.card
    let o := e.outputInverters
    c.statistics.nmos = n + i + o ∧ c.statistics.pmos = n + i + o ∧
      c.statistics.transistors = 2 * (n + i + o) ∧ c.statistics.inverters = i + o ∧
      (c.statistics.outputInverter = true ↔ o = 1) := by
  intro n i o
  obtain ⟨-, -, -, hdual, houtput, -⟩ := synthesize_eq_ok hc
  have hsize : c.pulldown.deviceCount = n := (deviceCount_of_synthesize hc).1
  have hinputs : c.invertedInputs.toList.length = i := length_invertedInputs hc
  have houtputs : c.outputInverted.toNat = o := by
    rw [houtput]
    exact (Formula.outputInverters_eq e).symm
  -- the networks are dual, and an inverter has one transistor of each kind
  have hkind : ∀ k, c.transistors.count k = n + i + o := by
    intro k
    rw [count_transistors hdual, hsize, hinputs, houtputs]
  have hn : c.statistics.nmos = n + i + o := hkind .nmos
  have hp : c.statistics.pmos = n + i + o := hkind .pmos
  refine ⟨hn, hp, ?_, ?_, ?_⟩
  · rw [Statistics.transistors, hn, hp]
    omega
  · show c.invertedInputs.toList.length + c.outputInverted.toNat = i + o
    rw [hinputs, houtputs]
  · show c.outputInverted = true ↔ o = 1
    rw [← houtputs]
    cases c.outputInverted <;> decide

/-- The circuit of `b xor (a nor 0)` has six devices in each network, an
    inverter for each of its two variables and one behind the stage; the
    complemented constant takes none. -/
theorem statistics_of_synthesize_xor :
    let e := Formula.xor (.leaf 'b') (.nor (.leaf 'a') (.leaf '0'))
    ∃ c, synthesize e 6 = .ok c ∧ e.exclusivesAbove 0 = [1, 1, 1] ∧
      e.complementedInputs = {'a', 'b'} ∧ e.outputInverters = 1 ∧
      c.statistics.nmos = 9 ∧ c.statistics.pmos = 9 ∧ c.statistics.transistors = 18 ∧
      c.statistics.inverters = 3 ∧ c.statistics.outputInverter = true := by
  intro e
  obtain ⟨c, hc⟩ : ∃ c, synthesize e 6 = .ok c := ⟨_, rfl⟩
  have hinputs : e.complementedInputs = {'a', 'b'} := by decide
  obtain ⟨hn, hp, ht, hi, ho⟩ := statistics_of_synthesize hc
  rw [hinputs] at hn hp ht hi
  exact ⟨c, hc, rfl, hinputs, rfl, hn, hp, ht, hi, ho.mpr rfl⟩

end Circuit

end SwitchLogic
