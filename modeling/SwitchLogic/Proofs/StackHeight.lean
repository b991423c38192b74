import SwitchLogic.Circuit.Statistics
import SwitchLogic.Proofs.NetworkSize

/-! # Stack heights and the number of devices

    The stack height of a network adds up along a series connection and
    takes the greatest part of a parallel one; in the dual network the
    two change places.  With one part more, one of the two heights grows
    by the part's own and the other at most to the part's own.

    So the two heights together exceed the number of devices by one at
    most, and the devices fit into a rectangle whose sides they are.  A
    single device meets both bounds exactly. -/

namespace SwitchLogic

namespace Network

-- ── Equations of the measures ──────────────────────────────────────

@[simp] theorem stackHeight_device (d : Device) : (device d).stackHeight = 1 := by
  simp [stackHeight]

@[simp] theorem stackHeight_series (parts : List Network) :
    (series parts).stackHeight = (parts.map stackHeight).sum := by
  simp [stackHeight, List.sum]

@[simp] theorem stackHeight_parallel (parts : List Network) :
    (parallel parts).stackHeight = greatest (parts.map stackHeight) := by
  simp [stackHeight]

theorem greatest_cons (k : Nat) (counts : List Nat) :
    greatest (k :: counts) = max k (greatest counts) := rfl

-- ── The two bounds ─────────────────────────────────────────────────

/-- The bounds between the number of devices of a network, its stack
    height, and the stack height of its dual. -/
structure HeightBounds (count height dualHeight : Nat) : Prop where
  pos : 0 < count
  sum_le : height + dualHeight ≤ count + 1
  le_mul : count ≤ height * dualHeight

namespace HeightBounds

variable {k k' a a' b b' : Nat}

/-- The bounds do not tell a network from its dual. -/
theorem swap (h : HeightBounds k a b) : HeightBounds k b a :=
  ⟨h.pos, Nat.add_comm a b ▸ h.sum_le, Nat.mul_comm a b ▸ h.le_mul⟩

/-- Neither network can be higher than its devices are many. -/
theorem height_le (h : HeightBounds k a b) : a ≤ k := by
  have hpos : 0 < a * b := Nat.lt_of_lt_of_le h.pos h.le_mul
  have hb : 0 < b := Nat.pos_of_mul_pos_left hpos
  have hsum := h.sum_le
  omega

/-- **One part more.**  The height along the connection adds up, and the
    height across it is that of the higher part. -/
theorem beside (h : HeightBounds k a b) (h' : HeightBounds k' a' b') :
    HeightBounds (k + k') (a + a') (max b b') := by
  constructor
  case pos => exact Nat.add_pos_left h.pos k'
  case sum_le =>
    -- the part that is not the higher one is no higher than it has devices
    have ha := h.height_le
    have ha' := h'.height_le
    have hsum := h.sum_le
    have hsum' := h'.sum_le
    omega
  case le_mul =>
    calc k + k' ≤ a * b + a' * b' := Nat.add_le_add h.le_mul h'.le_mul
      _ ≤ a * max b b' + a' * max b b' :=
        Nat.add_le_add (Nat.mul_le_mul_left a (Nat.le_max_left b b'))
          (Nat.mul_le_mul_left a' (Nat.le_max_right b b'))
      _ = (a + a') * max b b' := (Nat.add_mul a a' _).symm

/-- The bounds of its parts are bounds of a connection, with the first
    height along it and the second across it. -/
theorem connection {parts : List Network} {f g : Network → Nat} (hparts : parts ≠ [])
    (h : ∀ n ∈ parts, HeightBounds n.deviceCount (f n) (g n)) :
    HeightBounds (parts.map deviceCount).sum (parts.map f).sum
      (greatest (parts.map g)) := by
  induction parts with
  | nil => exact absurd rfl hparts
  | cons n rest ih =>
      have hn := h n List.mem_cons_self
      cases rest with
      | nil => simpa [greatest] using hn
      | cons m rest =>
          have hrest := ih (List.cons_ne_nil m rest) fun m' hm => h m' (List.mem_cons_of_mem n hm)
          exact hn.beside hrest

end HeightBounds

/-- **The bounds hold of every well-formed network.**  A parallel
    connection is the series connection of the dual network. -/
theorem heightBounds {n : Network} (hn : n.isWellFormed = true) :
    HeightBounds n.deviceCount n.stackHeight n.dual.stackHeight := by
  refine isWellFormed_induction
    (P := fun n => HeightBounds n.deviceCount n.stackHeight n.dual.stackHeight)
    (fun d => ⟨by simp, by simp, by simp⟩) (fun parts hne _ ih => ?_) (fun parts hne _ ih => ?_) hn
  · rw [dual_series, deviceCount_series, stackHeight_series, stackHeight_parallel, List.map_map]
    exact .connection hne ih
  · rw [dual_parallel, deviceCount_parallel, stackHeight_parallel, stackHeight_series,
      List.map_map]
    exact (HeightBounds.connection hne fun n hn => (ih n hn).swap).swap

end Network

namespace Circuit

/-- **Stack heights fit the number of devices.**  In every well-formed
    network the stack heights of the network and of its dual exceed the
    number of devices by one at most when they are added, and are not
    below it when they are multiplied; and these are the two stack
    heights that the statistics of a synthesized circuit report. -/
theorem stackHeight_bounds :
    (∀ n : Network, n.isWellFormed = true →
      n.stackHeight + n.dual.stackHeight ≤ n.deviceCount + 1 ∧
        n.deviceCount ≤ n.stackHeight * n.dual.stackHeight) ∧
    ∀ (e : Formula) (maxDevices : Nat) (c : Circuit), synthesize e maxDevices = .ok c →
      c.statistics.pulldownStack = c.pulldown.stackHeight ∧
        c.statistics.pullupStack = c.pulldown.dual.stackHeight ∧
        c.statistics.pulldownStack + c.statistics.pullupStack ≤ c.pulldown.deviceCount + 1 ∧
        c.pulldown.deviceCount ≤ c.statistics.pulldownStack * c.statistics.pullupStack := by
  constructor
  · intro n hn
    have hbounds := Network.heightBounds hn
    exact ⟨hbounds.sum_le, hbounds.le_mul⟩
  · intro e maxDevices c hc
    obtain ⟨-, -, hnet, hdual, -, -⟩ := synthesize_eq_ok hc
    have hbounds := Network.heightBounds (Network.isWellFormed_ofFormula hnet)
    have hup : c.statistics.pullupStack = c.pulldown.dual.stackHeight := by
      rw [← hdual]
      rfl
    refine ⟨rfl, hup, ?_, ?_⟩
    · rw [hup]
      exact hbounds.sum_le
    · rw [hup]
      exact hbounds.le_mul

/-- Two devices in series with a choice between one and two more meet the
    bound on the sum, and the circuit of `a xor b` that on the product. -/
theorem stackHeight_bounds_xor :
    let d : Char → Network := fun x => .device ⟨.nmos, x, false⟩
    let n : Network := .series [d 'a', .parallel [d 'b', .series [d 'c', d 'd']], d 'e']
    (n.isWellFormed = true ∧ n.stackHeight + n.dual.stackHeight ≤ n.deviceCount + 1 ∧
        n.stackHeight = 4 ∧ n.dual.stackHeight = 2 ∧ n.deviceCount = 5) ∧
      ∃ c, synthesize (.xor (.leaf 'a') (.leaf 'b')) 4 = .ok c ∧ c.pulldown.deviceCount = 4 ∧
        c.pulldown.deviceCount ≤ c.statistics.pulldownStack * c.statistics.pullupStack ∧
        c.statistics.pulldownStack = 2 ∧ c.statistics.pullupStack = 2 := by
  intro d n
  obtain ⟨hnetworks, hcircuits⟩ := stackHeight_bounds
  have hn : n.isWellFormed = true := rfl
  obtain ⟨c, hc, hcount, hdown, hup⟩ : ∃ c, synthesize (.xor (.leaf 'a') (.leaf 'b')) 4 = .ok c ∧
      c.pulldown.deviceCount = 4 ∧ c.statistics.pulldownStack = 2 ∧ c.statistics.pullupStack = 2 :=
    ⟨_, rfl, rfl, rfl, rfl⟩
  exact ⟨⟨hn, (hnetworks n hn).1, rfl, rfl, rfl⟩,
    c, hc, hcount, (hcircuits _ 4 c hc).2.2.2, hdown, hup⟩

end Circuit

end SwitchLogic
