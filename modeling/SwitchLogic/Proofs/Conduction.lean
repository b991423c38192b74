import SwitchLogic.Network.Conduction
import SwitchLogic.Circuit.Basic
import SwitchLogic.Proofs.Expansion

/-! # Conduction of networks

    Series and parallel connections are one search for the first part
    that decides, with opposite decisive values.

    Two laws relate conduction to the other readings of a network.  The
    dual of a network conducts exactly where the network does not, and
    fails exactly where it fails: both try their parts in the same order
    and stop at the same one.  The network of a formula conducts where
    the formula is true.

    The second law needs the formula to have a value.  A connection
    stops at the first part that decides, so a network may conduct where
    a variable that it never reaches has no value. -/

namespace SwitchLogic.Network

-- ── Connections ────────────────────────────────────────────────────

/-- The first outcome of a list that settles a connection: a failure, or
    the decisive value.  Where nothing settles it, the other value. -/
def firstDecision (decisive : Bool) : List (Except Error Bool) → Except Error Bool
  | [] => .ok (!decisive)
  | .error e :: _ => .error e
  | .ok v :: rest => if v = decisive then .ok decisive else firstDecision decisive rest

/-- Whether all parts conduct is decided by the first that does not. -/
theorem allConduct_eq_firstDecision (s : Assignment) (parts : List Network) :
    allConduct s parts = firstDecision false (parts.map (conducts s)) := by
  induction parts with
  | nil => rfl
  | cons n rest ih =>
      simp only [allConduct, List.map_cons]
      cases n.conducts s with
      | error e => rfl
      | ok v =>
          cases v with
          | false => rfl
          | true => exact ih

/-- Whether some part conducts is decided by the first that does. -/
theorem someConducts_eq_firstDecision (s : Assignment) (parts : List Network) :
    someConducts s parts = firstDecision true (parts.map (conducts s)) := by
  induction parts with
  | nil => rfl
  | cons n rest ih =>
      simp only [someConducts, List.map_cons]
      cases n.conducts s with
      | error e => rfl
      | ok v =>
          cases v with
          | false => exact ih
          | true => rfl

/-- A series connection is decided by its first open part. -/
theorem conducts_series (s : Assignment) {parts : List Network}
    (h : parts.isEmpty = false) :
    (series parts).conducts s = firstDecision false (parts.map (conducts s)) := by
  rw [conducts, h, ← allConduct_eq_firstDecision]
  rfl

/-- A parallel connection is decided by its first closed part. -/
theorem conducts_parallel (s : Assignment) {parts : List Network}
    (h : parts.isEmpty = false) :
    (parallel parts).conducts s = firstDecision true (parts.map (conducts s)) := by
  rw [conducts, h, ← someConducts_eq_firstDecision]
  rfl

/-- Two parts with values: one decisive value is enough. -/
theorem firstDecision_pair (decisive v w : Bool) :
    firstDecision decisive [.ok v, .ok w] = .ok (if decisive then v || w else v && w) := by
  cases decisive <;> cases v <;> cases w <;> rfl

/-- Complements are decided at the same outcome, by the other value. -/
theorem firstDecision_map_not (decisive : Bool) (outcomes : List (Except Error Bool)) :
    firstDecision (!decisive) (outcomes.map (·.map (!·)))
      = (firstDecision decisive outcomes).map (!·) := by
  induction outcomes with
  | nil => rfl
  | cons outcome rest ih =>
      rw [List.map_cons]
      cases outcome with
      | error e => rfl
      | ok v =>
          show firstDecision (!decisive) (.ok (!v) :: rest.map (·.map (!·))) = _
          by_cases h : v = decisive
          · rw [firstDecision, if_pos (congrArg (!·) h), firstDecision, if_pos h]
            rfl
          · have hnot : ¬ (!v) = !decisive := fun heq => h (Bool.not_inj heq)
            rw [firstDecision, if_neg hnot, firstDecision, if_neg h]
            exact ih

-- ── The dual network ───────────────────────────────────────────────

/-- What a device does is a function of the value of its gate signal: an
    inverter in front of the gate adds no failure. -/
theorem device_conducts_eq_map (s : Assignment) (d : Device) :
    d.conducts s = (s.value d.gate).map fun level => d.kind.conducts (d.inverted ^^ level) := by
  rw [Device.conducts]
  cases s.value d.gate with
  | error e => rfl
  | ok level =>
      simp only [Device.gateLevel_eq_ok]
      rfl

/-- The device of the other kind does the opposite. -/
theorem device_conducts_dual (s : Assignment) (d : Device) :
    d.dual.conducts s = (d.conducts s).map (!·) := by
  rw [device_conducts_eq_map, device_conducts_eq_map, Device.dual]
  cases s.value d.gate with
  | error e => rfl
  | ok level => exact congrArg Except.ok (Transistor.conducts_dual d.kind _)

/-- The outcomes of dual parts are the complements. -/
theorem map_conducts_dual {s : Assignment} {parts : List Network}
    (h : ∀ n ∈ parts, n.dual.conducts s = (n.conducts s).map (!·)) :
    (parts.map dual).map (conducts s) = (parts.map (conducts s)).map (·.map (!·)) := by
  rw [List.map_map, List.map_map]
  exact List.map_congr_left h

/-- **The dual network complements conduction**, and keeps failures. -/
theorem conducts_dual_network (s : Assignment) (n : Network) :
    n.dual.conducts s = (n.conducts s).map (!·) := by
  induction n with
  | device d => simpa [conducts] using device_conducts_dual s d
  | series parts ih =>
      rw [dual_series]
      cases h : parts.isEmpty with
      | true => simp [conducts, h, Except.map]
      | false =>
          rw [conducts_parallel s (by rw [List.isEmpty_map, h]), conducts_series s h,
            map_conducts_dual ih]
          exact firstDecision_map_not false _
  | parallel parts ih =>
      rw [dual_parallel]
      cases h : parts.isEmpty with
      | true => simp [conducts, h, Except.map]
      | false =>
          rw [conducts_series s (by rw [List.isEmpty_map, h]), conducts_parallel s h,
            map_conducts_dual ih]
          exact firstDecision_map_not true _

/-- **Duality is an exact complement.**  Whatever a network is made of,
    it is the dual of its dual; the dual conducts where the network does
    not, does not where it does, and fails where it fails, with the very
    same failure. -/
theorem dual_conducts_iff (n : Network) (s : Assignment) :
    n.dual.dual = n ∧
      (∀ v, n.conducts s = .ok v ↔ n.dual.conducts s = .ok (!v)) ∧
      ∀ err, n.conducts s = .error err ↔ n.dual.conducts s = .error err := by
  have hvalue : ∀ (m : Network) (v : Bool),
      m.conducts s = .ok v → m.dual.conducts s = .ok (!v) := by
    intro m v h
    rw [conducts_dual_network, h]
    rfl
  have hfailure : ∀ (m : Network) (err : Error),
      m.conducts s = .error err → m.dual.conducts s = .error err := by
    intro m err h
    rw [conducts_dual_network, h]
    rfl
  -- the way back is the way there from the dual network
  refine ⟨dual_dual n, fun v => ⟨hvalue n v, fun h => ?_⟩, fun err => ⟨hfailure n err, fun h => ?_⟩⟩
  · have hback := hvalue n.dual (!v) h
    rwa [dual_dual, Bool.not_not] at hback
  · have hback := hfailure n.dual err h
    rwa [dual_dual] at hback

/-- A connection of nothing makes no difference behind the part that
    decides, in the network and in its dual. -/
example :
    let n := series [parallel [device ⟨.nmos, '0', false⟩, device ⟨.pmos, 'a', false⟩], series []]
    let s : Assignment := ⟨[('a', true)]⟩
    n.conducts s = .ok false ∧ n.dual.conducts s = .ok true :=
  ⟨rfl, rfl⟩

-- ── The network of a formula ───────────────────────────────────────

/-- A connection of two networks comes from two networks. -/
theorem connect_eq_ok {connection : List Network → Network}
    {x y : Except Error Network} {n : Network} (h : connect connection x y = .ok n) :
    ∃ m₁ m₂, x = .ok m₁ ∧ y = .ok m₂ ∧ n = connection [m₁, m₂] := by
  cases x with
  | error e => cases h
  | ok m₁ =>
      cases y with
      | error e => cases h
      | ok m₂ => exact ⟨m₁, m₂, rfl, rfl, (Except.ok.inj h).symm⟩

/-- **Induction on networks of formulas.**  A relation between formulas
    and networks that holds of literals and their devices, and that the
    two connections keep, holds of every formula and its network. -/
theorem ofFormula_induction {P : Formula → Network → Prop}
    (direct : ∀ c, P (.leaf c) (.device ⟨.nmos, c, false⟩))
    (complemented : ∀ c, P (.not (.leaf c)) (.device ⟨.nmos, c, true⟩))
    (conjunction : ∀ a b m₁ m₂, P a m₁ → P b m₂ → P (.and a b) (.series [m₁, m₂]))
    (disjunction : ∀ a b m₁ m₂, P a m₁ → P b m₂ → P (.or a b) (.parallel [m₁, m₂]))
    {e : Formula} {n : Network} (h : ofFormula e = .ok n) : P e n := by
  fun_induction ofFormula e generalizing n with
  | case1 c => exact Except.ok.inj h ▸ direct c
  | case2 c => exact Except.ok.inj h ▸ complemented c
  | case3 a _ => cases h
  | case4 a b iha ihb =>
      obtain ⟨m₁, m₂, h₁, h₂, rfl⟩ := connect_eq_ok h
      exact conjunction a b m₁ m₂ (iha h₁) (ihb h₂)
  | case5 a b iha ihb =>
      obtain ⟨m₁, m₂, h₁, h₂, rfl⟩ := connect_eq_ok h
      exact disjunction a b m₁ m₂ (iha h₁) (ihb h₂)
  | case6 op a b _ _ => cases h

/-- A direct nmos conducts where its gate is high. -/
theorem conducts_direct {s : Assignment} {c : Char} {v : Bool} (h : s.value c = .ok v) :
    (device ⟨.nmos, c, false⟩).conducts s = .ok v := by
  rw [conducts, device_conducts_eq_map, h]
  exact congrArg Except.ok (Bool.false_xor v)

/-- An nmos behind an inverter conducts where its gate signal is low. -/
theorem conducts_complemented {s : Assignment} {c : Char} {v : Bool}
    (h : s.value c = .ok v) : (device ⟨.nmos, c, true⟩).conducts s = .ok (!v) := by
  rw [conducts, device_conducts_eq_map, h]
  exact congrArg Except.ok (Bool.true_xor v)

/-- **The network of a formula conducts where the formula is true.** -/
theorem conducts_ofFormula {s : Assignment} {e : Formula} {n : Network} {v : Bool}
    (hn : ofFormula e = .ok n) (hv : e.evaluate s = .ok v) : n.conducts s = .ok v := by
  revert v
  refine ofFormula_induction (P := fun e n => ∀ {v}, e.evaluate s = .ok v → n.conducts s = .ok v)
    (fun c v hv => conducts_direct hv) (fun c v hv => ?_) (fun a b m₁ m₂ iha ihb v hv => ?_)
    (fun a b m₁ m₂ iha ihb v hv => ?_) hn
  · rw [Formula.evaluate_not] at hv
    obtain ⟨w, hw, rfl⟩ := exists_of_map_eq_ok hv
    exact conducts_complemented hw
  · rw [Formula.evaluate_binary] at hv
    obtain ⟨v₁, v₂, hv₁, hv₂, rfl⟩ := combine_eq_ok hv
    rw [conducts_series s rfl, List.map_cons, List.map_cons, List.map_nil, iha hv₁, ihb hv₂,
      firstDecision_pair]
    simp [Connective.apply, Family.apply]
  · rw [Formula.evaluate_binary] at hv
    obtain ⟨v₁, v₂, hv₁, hv₂, rfl⟩ := combine_eq_ok hv
    rw [conducts_parallel s rfl, List.map_cons, List.map_cons, List.map_nil, iha hv₁, ihb hv₂,
      firstDecision_pair]
    simp [Connective.apply, Family.apply]

end SwitchLogic.Network
