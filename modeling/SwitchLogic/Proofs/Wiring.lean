import SwitchLogic.Proofs.ExpandedForm
import SwitchLogic.Proofs.Soundness

/-! # Wiring of synthesized circuits

    The pull-down network has one device for each literal of the core,
    in the same order, and the pull-up network has the same gates again.
    Every gate that takes a complemented signal has its inverter, and no
    inverter is spare.

    The output depends on the pull-down network alone, because its dual
    stops at the same device and answers the opposite.  A synthesized
    circuit therefore has no fault of its own: where it gives no output,
    a variable of the formula has no value. -/

namespace SwitchLogic

-- ── Devices of a network ───────────────────────────────────────────

namespace Network

/-- The network of a formula has a device for each literal. -/
theorem devices_ofFormula {e : Formula} {n : Network} (h : ofFormula e = .ok n) :
    n.devices = e.literals.map fun l => ⟨.nmos, l.1, l.2⟩ := by
  refine ofFormula_induction
    (P := fun e n => n.devices = e.literals.map fun l => ⟨.nmos, l.1, l.2⟩)
    (fun c => ?_) (fun c => ?_) (fun a b m₁ m₂ ha hb => ?_) (fun a b m₁ m₂ ha hb => ?_) h
  · simp [Formula.literals]
  · simp [Formula.literals]
  · simp [Formula.literals_binary, ha, hb]
  · simp [Formula.literals_binary, ha, hb]

/-- The network of a formula has no empty connection. -/
theorem isWellFormed_ofFormula {e : Formula} {n : Network} (h : ofFormula e = .ok n) :
    n.isWellFormed = true := by
  refine ofFormula_induction (P := fun _ n => n.isWellFormed = true)
    (fun c => isWellFormed_device _) (fun c => isWellFormed_device _)
    (fun a b m₁ m₂ ha hb => ?_) (fun a b m₁ m₂ ha hb => ?_) h
  · simp [ha, hb]
  · simp [ha, hb]

/-- The devices of the duals of some parts. -/
theorem flatMap_devices_dual {parts : List Network}
    (h : ∀ n ∈ parts, n.dual.devices = n.devices.map Device.dual) :
    (parts.map dual).flatMap devices = (parts.flatMap devices).map Device.dual := by
  rw [List.flatMap_map, List.map_flatMap]
  exact congrArg List.flatten (List.map_congr_left h)

/-- The dual network has the dual devices in the same order. -/
theorem devices_dual (n : Network) : n.dual.devices = n.devices.map Device.dual := by
  induction n with
  | device d => simp
  | series parts ih =>
      rw [dual_series, devices_parallel, devices_series]
      exact flatMap_devices_dual ih
  | parallel parts ih =>
      rw [dual_parallel, devices_series, devices_parallel]
      exact flatMap_devices_dual ih

end Network

-- ── Synthesized circuits ───────────────────────────────────────────

/-- Taking an inversion off a formula leaves its leaves. -/
theorem Formula.leaves_seed (e : Formula) : e.seed.1.leaves = e.leaves := by
  cases e with
  | leaf c => rfl
  | not a => rfl
  | binary op a b =>
      simp only [seed]
      split
      · rfl
      · rfl

namespace Circuit

variable {e : Formula} {maxDevices : Nat} {c : Circuit}

/-- **No inverter is missing and none is spare.** -/
theorem mem_invertedInputs_iff (hc : synthesize e maxDevices = .ok c) {x : Char} :
    x ∈ c.invertedInputs ↔ ∃ d ∈ c.pulldown.devices, d.inverted = true ∧ d.gate = x := by
  obtain ⟨-, hcore, hnet, -, -, hinverted⟩ := synthesize_eq_ok hc
  rw [hinverted, Formula.mem_invertedInputs, ← hcore, Network.devices_ofFormula hnet]
  constructor
  · intro h
    exact ⟨_, List.mem_map_of_mem h, rfl, rfl⟩
  · rintro ⟨d, hd, hinv, rfl⟩
    obtain ⟨⟨y, b⟩, hl, rfl⟩ := List.mem_map.mp hd
    obtain rfl : b = true := hinv
    exact hl

/-- The gates of both networks are the gates of the pull-down network,
    with the same inversions. -/
theorem exists_pulldown_device (hc : synthesize e maxDevices = .ok c) {d : Device}
    (hd : d ∈ c.pulldown.devices ++ c.pullup.devices) :
    ∃ d' ∈ c.pulldown.devices, d'.inverted = d.inverted ∧ d'.gate = d.gate := by
  obtain ⟨-, -, -, hdual, -, -⟩ := synthesize_eq_ok hc
  rw [hdual, Network.devices_dual, List.mem_append] at hd
  rcases hd with hd | hd
  · exact ⟨d, hd, rfl, rfl⟩
  · obtain ⟨d', hd', rfl⟩ := List.mem_map.mp hd
    exact ⟨d', hd', rfl, rfl⟩

/-- A gate that may lack a value is a variable of the formula. -/
theorem gate_mem_leaves (hc : synthesize e maxDevices = .ok c) {d : Device}
    (hd : d ∈ c.pulldown.devices) (hvar : Signal.constant? d.gate = none) :
    d.gate ∈ e.leaves := by
  obtain ⟨-, hcore, hnet, -, -, -⟩ := synthesize_eq_ok hc
  rw [Network.devices_ofFormula hnet, hcore] at hd
  obtain ⟨⟨y, b⟩, hl, rfl⟩ := List.mem_map.mp hd
  rw [← Formula.leaves_seed]
  exact Formula.mem_leaves_of_mem_literals hl hvar

/-- **The pull-down network decides.**  The output is that of the
    pull-down network, complemented by a stage without an inverter
    behind it, under every assignment and failures included. -/
theorem output_eq_map_conducts (hc : synthesize e maxDevices = .ok c) (s : Assignment) :
    c.output s = (c.pulldown.conducts s).map (!c.outputInverted ^^ ·) := by
  obtain ⟨-, -, -, hdual, -, -⟩ := synthesize_eq_ok hc
  cases hdown : c.pulldown.conducts s with
  | error err =>
      simp only [output, hdown]
      rfl
  | ok w =>
      have hup : c.pullup.conducts s = .ok (!w) := by
        rw [hdual, Network.conducts_dual_network, hdown]
        rfl
      exact output_of_complementary hdown hup

/-- The circuit has an output where the formula has a value. -/
theorem output_of_evaluate (hc : synthesize e maxDevices = .ok c) {s : Assignment} {v : Bool}
    (hv : e.evaluate s = .ok v) : c.output s = .ok v := by
  have hcore : c.core.evaluate s = .ok (!c.outputInverted ^^ v) := by
    rw [evaluate_core hc, hv]
    rfl
  rw [output_eq_map_conducts hc, (conducts_of_core hc hcore).1]
  cases c.outputInverted <;> simp [Except.map]

/-- **A circuit without an output misses a variable.** -/
theorem exists_lacks_of_output_eq_error (hc : synthesize e maxDevices = .ok c)
    {s : Assignment} {err : Error} (h : c.output s = .error err) :
    ∃ x ∈ e.leaves, s.lacks x = true ∧ err = .unassignedVariable x := by
  obtain ⟨-, -, hnet, -, -, -⟩ := synthesize_eq_ok hc
  rw [output_eq_map_conducts hc] at h
  obtain ⟨d, hd, hfails⟩ := Network.exists_device_of_conducts_eq_error
    (Network.isWellFormed_ofFormula hnet) (eq_error_of_map h)
  obtain ⟨hlacks, rfl⟩ := Network.device_conducts_eq_error hfails
  have hvar := (Assignment.lacks_eq_true_iff.mp hlacks).1
  exact ⟨d.gate, gate_mem_leaves hc hd hvar, hlacks, rfl⟩

end Circuit

end SwitchLogic

-- ── Circuits under partial assignments ─────────────────────────────

namespace SwitchLogic.Circuit

/-- **An output is final, and only a missing variable prevents it.** -/
theorem output_of_partial {e : Formula} {maxDevices : Nat} {c : Circuit}
    (hc : synthesize e maxDevices = .ok c) (s : Assignment) :
    (∀ fault, c.output s ≠ .error (.inconsistent fault)) ∧
      (∀ w, c.output s = .ok w → ∀ s' : Assignment, s'.Extends s →
        (∀ x ∈ e.leaves, Signal.constant? x = none → (s'.get? x).isSome = true) →
          e.evaluate s' = .ok w) ∧
      ∀ err, c.output s = .error err →
        ∃ x ∈ e.leaves, Signal.constant? x = none ∧ s.get? x = none ∧
          err = .unassignedVariable x := by
  refine ⟨fun fault h => ?_, fun w hw s' hs' hfull => ?_, fun err h => ?_⟩
  · obtain ⟨x, -, -, herr⟩ := exists_lacks_of_output_eq_error hc h
    cases herr
  · -- the full assignment gives the formula some value, which the circuit outputs too
    obtain ⟨v, hv⟩ := Formula.exists_evaluate fun x hx =>
      Assignment.lacks_eq_false (hfull x hx)
    have hout : c.output s' = .ok v := output_of_evaluate hc hv
    obtain rfl : w = v := Except.ok.inj ((output_of_extends hs' hw).symm.trans hout)
    exact hv
  · obtain ⟨x, hx, hlacks, rfl⟩ := exists_lacks_of_output_eq_error hc h
    obtain ⟨hvar, hnone⟩ := Assignment.lacks_eq_true_iff.mp hlacks
    exact ⟨x, hx, hvar, hnone, rfl⟩

/-- The circuit of `a and b or c` answers high without a value of `b`
    when `a` is low and `c` is high; the formula has no value there, but
    it is true for either value of `b`. -/
theorem output_of_partial_early :
    let e := Formula.or (.and (.leaf 'a') (.leaf 'b')) (.leaf 'c')
    let s : Assignment := ⟨[('a', false), ('c', true)]⟩
    ∃ c, synthesize e 3 = .ok c ∧ c.output s = .ok true ∧
      e.evaluate s = .error (.unassignedVariable 'b') ∧
      ∀ v, e.evaluate (s.assign 'b' v) = .ok true := by
  intro e s
  have hc : ∃ c, synthesize e 3 = .ok c ∧ c.output s = .ok true := ⟨_, rfl, rfl⟩
  obtain ⟨c, hc, hout⟩ := hc
  refine ⟨c, hc, hout, rfl, fun v => ?_⟩
  have hfull : ∀ x ∈ ['a', 'b', 'c'], Signal.constant? x = none →
      ((s.assign 'b' v).get? x).isSome = true := by
    intro x hx _
    simp only [List.mem_cons, List.not_mem_nil, or_false] at hx
    rcases hx with rfl | rfl | rfl <;> rfl
  exact (output_of_partial hc s).2.1 true hout (s.assign 'b' v) (Assignment.extends_assign rfl v)
    hfull

end SwitchLogic.Circuit
