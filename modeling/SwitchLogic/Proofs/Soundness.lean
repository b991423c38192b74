import SwitchLogic.Circuit.Simulation
import SwitchLogic.Circuit.Basic
import SwitchLogic.Proofs.Conduction

/-! # Synthesized circuits compute their formula

    A synthesized stage is the complement of the core that its pull-down
    network mirrors, and the pull-up network is the dual of that network.
    Under an assignment that gives the formula a value, exactly one of
    the two networks therefore conducts, and the output is that value:
    directly when the synthesis took an inversion off the formula, and
    through the output inverter otherwise. -/

namespace SwitchLogic

-- ── The seed of a formula ──────────────────────────────────────────

/-- The seed is the formula itself behind an output inverter, and its
    complement otherwise. -/
theorem Formula.evaluate_seed (s : Assignment) (e : Formula) :
    e.seed.1.evaluate s = (e.evaluate s).map (!e.seed.2 ^^ ·) := by
  cases e with
  | leaf c =>
      show s.value c = (s.value c).map (!true ^^ ·)
      cases s.value c <;> simp [Except.map]
  | not a =>
      show a.evaluate s = ((Formula.not a).evaluate s).map (!false ^^ ·)
      rw [Formula.evaluate_not]
      cases a.evaluate s <;> simp [Except.map]
  | binary op a b =>
      simp only [Formula.seed]
      split
      · rename_i h
        rw [Formula.evaluate_binary, Formula.evaluate_binary, map_combine]
        refine combine_congr (fun v w => ?_) _ _
        rw [Connective.apply_eq_plain op, h]
        simp
      · rw [Formula.evaluate_binary, map_combine]
        exact combine_congr (fun v w => by simp) _ _

namespace Circuit

/-- **What synthesis returns.**  A synthesized circuit is the expansion
    of the seed with its network, the dual of that network, and the
    inverters that the seed asks for. -/
theorem synthesize_eq_ok {e : Formula} {maxDevices : Nat} {c : Circuit}
    (h : synthesize e maxDevices = .ok c) :
    e.seed.1.expandedSize ≤ maxDevices ∧ c.core = e.seed.1.expand ∧
      Network.ofFormula c.core = .ok c.pulldown ∧ c.pullup = c.pulldown.dual ∧
      c.outputInverted = e.seed.2 ∧ c.invertedInputs = e.seed.1.invertedInputs := by
  simp only [synthesize] at h
  split at h
  · cases h
  · rename_i hsize
    split at h
    · cases h
    · rename_i pulldown hnet
      cases h
      exact ⟨Nat.not_lt.mp hsize, rfl, hnet, rfl, rfl, rfl⟩

/-- The output of a stage whose networks conduct in opposite ways. -/
theorem output_of_complementary {c : Circuit} {s : Assignment} {w : Bool}
    (hdown : c.pulldown.conducts s = .ok w) (hup : c.pullup.conducts s = .ok (!w)) :
    c.output s = .ok (!c.outputInverted ^^ w) := by
  simp only [output, hdown, hup]
  cases w <;> cases c.outputInverted <;> rfl

/-- The networks of a synthesized circuit conduct as its core says. -/
theorem conducts_of_core {e : Formula} {maxDevices : Nat} {c : Circuit} {s : Assignment}
    {w : Bool} (hc : synthesize e maxDevices = .ok c) (hw : c.core.evaluate s = .ok w) :
    c.pulldown.conducts s = .ok w ∧ c.pullup.conducts s = .ok (!w) := by
  obtain ⟨-, -, hnet, hdual, -, -⟩ := synthesize_eq_ok hc
  have hdown : c.pulldown.conducts s = .ok w := Network.conducts_ofFormula hnet hw
  refine ⟨hdown, ?_⟩
  rw [hdual, Network.conducts_dual_network, hdown]
  rfl

/-- The core of a synthesized circuit is the formula behind an output
    inverter, and its complement otherwise. -/
theorem evaluate_core {e : Formula} {maxDevices : Nat} {c : Circuit}
    (hc : synthesize e maxDevices = .ok c) (s : Assignment) :
    c.core.evaluate s = (e.evaluate s).map (!c.outputInverted ^^ ·) := by
  obtain ⟨-, hcore, -, -, hout, -⟩ := synthesize_eq_ok hc
  rw [hcore, hout, Formula.expand, Formula.evaluate_expandUnder, Formula.evaluate_seed]
  cases e.evaluate s with
  | error err => rfl
  | ok v => simp [Except.map]

/-- **Synthesis is sound.**  Wherever the formula has a value, the
    synthesized circuit outputs it, the pull-down network conducts as the
    core says, and the pull-up network conducts exactly when the
    pull-down network does not. -/
theorem output_of_synthesize {e : Formula} {maxDevices : Nat} {c : Circuit}
    {s : Assignment} {v : Bool} (hc : synthesize e maxDevices = .ok c)
    (hv : e.evaluate s = .ok v) :
    c.output s = .ok v ∧
      ∃ w, c.core.evaluate s = .ok w ∧ c.pulldown.conducts s = .ok w ∧
        c.pullup.conducts s = .ok (!w) := by
  have hcore : c.core.evaluate s = .ok (!c.outputInverted ^^ v) := by
    rw [evaluate_core hc, hv]
    rfl
  obtain ⟨hdown, hup⟩ := conducts_of_core hc hcore
  refine ⟨?_, _, hcore, hdown, hup⟩
  rw [output_of_complementary hdown hup]
  cases c.outputInverted <;> simp

/-- The circuit of `!(a and 1) xnor b` where both operands are false. -/
theorem output_of_synthesize_xnor :
    let e := Formula.xnor (.not (.and (.leaf 'a') (.leaf '1'))) (.leaf 'b')
    let s : Assignment := ⟨[('a', true), ('b', false)]⟩
    ∃ c, synthesize e 6 = .ok c ∧ e.evaluate s = .ok true ∧ c.output s = .ok true ∧
      c.pulldown.conducts s = .ok false ∧ c.pullup.conducts s = .ok true := by
  intro e s
  have hc : ∃ c, synthesize e 6 = .ok c ∧ c.core.evaluate s = .ok false :=
    ⟨_, rfl, rfl⟩
  obtain ⟨c, hc, hcore⟩ := hc
  have hv : e.evaluate s = .ok true := rfl
  obtain ⟨hout, w, hw, hdown, hup⟩ := output_of_synthesize hc hv
  obtain rfl : false = w := Except.ok.inj (hcore.symm.trans hw)
  exact ⟨c, hc, hv, hout, hdown, hup⟩

end Circuit

end SwitchLogic
