import SwitchLogic.Proofs.Wiring

/-! # The shape of synthesized circuits

    A synthesized circuit is determined by its core.  The core is in
    expanded form; the pull-down network repeats its shape with one nmos
    for each leaf, and the pull-up network is the dual, with a pmos on
    the same gate in the same place.

    The inverters are recorded while the formula is expanded, and the
    devices are made afterwards from what the expansion left.  The two
    agree: an input has an inverter exactly when some device takes it
    complemented, and that is never a constant. -/

namespace SwitchLogic

namespace Network

/-- Whether every connection has exactly two parts. -/
def isPaired : Network → Bool :=
  fold (fun _ => true) (fun parts => parts.length == 2 && parts.all id)
    (fun parts => parts.length == 2 && parts.all id)

theorem isPaired_series (m n : Network) :
    (series [m, n]).isPaired = (m.isPaired && n.isPaired) := by
  simp [isPaired]

theorem isPaired_parallel (m n : Network) :
    (parallel [m, n]).isPaired = (m.isPaired && n.isPaired) := by
  simp [isPaired]

/-- The network of a formula has two parts for the two operands of each
    connective. -/
theorem isPaired_ofFormula {e : Formula} {n : Network} (h : ofFormula e = .ok n) :
    n.isPaired = true := by
  refine ofFormula_induction (P := fun _ n => n.isPaired = true) (fun c => rfl) (fun c => rfl)
    (fun a b m₁ m₂ ha hb => ?_) (fun a b m₁ m₂ ha hb => ?_) h
  · rw [isPaired_series, ha, hb]
    rfl
  · rw [isPaired_parallel, ha, hb]
    rfl

end Network

namespace Circuit

/-- The shape of a complementary stage with its inverters. -/
structure IsStage (c : Circuit) : Prop where
  /-- The core is built by plain conjunctions and disjunctions from
      leaves and complemented variables. -/
  core : c.core.isExpanded = true
  wellFormed : c.pulldown.isWellFormed = true
  /-- Connections have exactly two parts. -/
  paired : c.pulldown.isPaired = true
  /-- The gates are the leaves of the core in order. -/
  gates : c.pulldown.devices.map (·.gate) = c.core.leaves
  /-- The devices are nmos, inverted where the leaf is complemented. -/
  down : c.pulldown.devices = c.core.literals.map fun l => ⟨.nmos, l.1, l.2⟩
  /-- The pull-up network has the same gates and inversions, and is pmos. -/
  up : c.pullup.devices = c.core.literals.map fun l => ⟨.pmos, l.1, l.2⟩
  dual : c.pullup.dual = c.pulldown
  /-- No inverter is missing and none is spare. -/
  inverted : ∀ x, x ∈ c.invertedInputs ↔
    ∃ d ∈ c.pulldown.devices ++ c.pullup.devices, d.inverted = true ∧ d.gate = x
  constants : '0' ∉ c.invertedInputs ∧ '1' ∉ c.invertedInputs
  /-- Each inverter is listed once, in increasing order. -/
  inverters : ∃ names : List Char, c.inputInverters = names.map .input ∧
    names.Pairwise (· < ·) ∧ ∀ x, x ∈ names ↔ x ∈ c.invertedInputs

variable {e : Formula} {maxDevices : Nat} {c : Circuit}

/-- No constant is inverted. -/
theorem constant?_of_mem_invertedInputs (hc : synthesize e maxDevices = .ok c) {x : Char}
    (hx : x ∈ c.invertedInputs) : Signal.constant? x = none := by
  obtain ⟨-, -, -, -, -, hinverted⟩ := synthesize_eq_ok hc
  rw [hinverted, Formula.mem_invertedInputs] at hx
  exact Formula.constant?_of_mem_literals (Formula.isExpanded_expandUnder e.seed.1 false) hx

/-- **Every synthesized circuit is a stage.** -/
theorem isStage_of_synthesize (hc : synthesize e maxDevices = .ok c) : c.IsStage := by
  obtain ⟨-, hcore, hnet, hdual, -, -⟩ := synthesize_eq_ok hc
  have hdown := Network.devices_ofFormula hnet
  constructor
  case core =>
    rw [hcore]
    exact Formula.isExpanded_expandUnder e.seed.1 false
  case wellFormed => exact Network.isWellFormed_ofFormula hnet
  case paired => exact Network.isPaired_ofFormula hnet
  case gates =>
    rw [hdown, List.map_map]
    exact c.core.map_fst_literals
  case down => exact hdown
  case up =>
    rw [hdual, Network.devices_dual, hdown, List.map_map]
    rfl
  case dual => rw [hdual, Network.dual_dual]
  case inverted =>
    intro x
    rw [mem_invertedInputs_iff hc]
    constructor
    · rintro ⟨d, hd, hx⟩
      exact ⟨d, List.mem_append_left _ hd, hx⟩
    · -- a device of the pull-up network has its gate and inversion from the pull-down one
      rintro ⟨d, hd, hinv, rfl⟩
      obtain ⟨d', hd', hinv', hgate⟩ := exists_pulldown_device hc hd
      exact ⟨d', hd', hinv'.trans hinv, hgate⟩
  case constants =>
    constructor
    · intro h
      cases constant?_of_mem_invertedInputs hc h
    · intro h
      cases constant?_of_mem_invertedInputs hc h
  case inverters =>
    exact ⟨c.invertedInputs.toList, rfl, c.invertedInputs.increasing, fun x => Iff.rfl⟩

/-- The circuit of `b xor (a nor 0)` writes its three leaves twice; the
    complemented constant is the other one, and takes no inverter. -/
theorem isStage_of_synthesize_xor :
    let e := Formula.xor (.leaf 'b') (.nor (.leaf 'a') (.leaf '0'))
    ∃ c, synthesize e 6 = .ok c ∧
      c.pullup.devices = [⟨.pmos, 'b', false⟩, ⟨.pmos, 'a', false⟩, ⟨.pmos, '0', false⟩,
        ⟨.pmos, 'b', true⟩, ⟨.pmos, 'a', true⟩, ⟨.pmos, '1', false⟩] ∧
      c.pullup.dual = c.pulldown ∧ c.pulldown.isPaired = true ∧
      'a' ∈ c.invertedInputs ∧ '0' ∉ c.invertedInputs := by
  intro e
  obtain ⟨c, hc, hcore⟩ : ∃ c, synthesize e 6 = .ok c ∧ c.core = .or
      (.and (.leaf 'b') (.or (.leaf 'a') (.leaf '0')))
      (.and (.not (.leaf 'b')) (.and (.not (.leaf 'a')) (.leaf '1'))) := ⟨_, rfl, rfl⟩
  have hstage := isStage_of_synthesize hc
  have hup := hstage.up
  rw [hcore] at hup
  have ha : 'a' ∈ c.invertedInputs := by
    refine (hstage.inverted 'a').mpr ⟨⟨.pmos, 'a', true⟩, ?_, rfl, rfl⟩
    rw [hup]
    simp [Formula.literals]
  exact ⟨c, hc, hup, hstage.dual, hstage.paired, ha, hstage.constants.1⟩

end Circuit

end SwitchLogic
