import Mathlib.Algebra.BigOperators.Ring.List
import Mathlib.Tactic.Ring
import SwitchLogic.Proofs.Wiring

/-! # The size of a synthesized network

    An exclusive connective writes each of its operands twice, once as it
    is and once complemented.  A leaf therefore becomes one device for
    every way through the exclusive connectives above it, and complements
    and outer inversions make no difference.

    The count that is taken before anything is built keeps both
    polarities apart and stops at the greatest 64-bit count.  The two
    polarities always agree, and stopping early at one connective cannot
    be told from stopping at the end, so the count is the true size up to
    that greatest one. -/

namespace SwitchLogic

-- ── The size of a formula ──────────────────────────────────────────

/-- How many times the expansion writes each operand of a connective. -/
def Connective.copies (op : Connective) : Nat := if op.family = .exclusive then 2 else 1

namespace Formula

/-- For every leaf, left to right, the number of exclusive connectives
    above it, when `above` of them stand above the whole formula. -/
def exclusivesAbove (above : Nat) : Formula → List Nat
  | .leaf _ => [above]
  | .not a => a.exclusivesAbove above
  | .binary op a b =>
      let inside := if op.family = .exclusive then above + 1 else above
      a.exclusivesAbove inside ++ b.exclusivesAbove inside

/-- The number of leaves, each counted twice for every exclusive
    connective above it. -/
def fullSize (e : Formula) : Nat := ((e.exclusivesAbove 0).map (2 ^ ·)).sum

/-- Exclusive connectives above a formula double its size once each. -/
theorem sum_exclusivesAbove (e : Formula) (above : Nat) :
    ((e.exclusivesAbove above).map (2 ^ ·)).sum = 2 ^ above * e.fullSize := by
  induction e generalizing above with
  | leaf c => simp [exclusivesAbove, fullSize]
  | not a ih => exact ih above
  | binary op a b iha ihb =>
      rw [fullSize, exclusivesAbove, exclusivesAbove]
      split <;> simp only [List.map_append, List.sum_append, iha, ihb] <;> ring

/-- Each connective adds up its operands, as often as it writes them. -/
theorem fullSize_binary (op : Connective) (a b : Formula) :
    (binary op a b).fullSize = op.copies * (a.fullSize + b.fullSize) := by
  rw [fullSize, exclusivesAbove, Connective.copies]
  split <;> simp only [List.map_append, List.sum_append, sum_exclusivesAbove] <;> ring

/-- Taking off the outermost inversion keeps the full size. -/
theorem fullSize_seed (e : Formula) : e.seed.1.fullSize = e.fullSize := by
  cases e with
  | leaf c => rfl
  | not a => rfl
  | binary op a b =>
      rw [seed]
      split
      · rfl
      · rfl

-- ── The expansion has this size ────────────────────────────────────

theorem length_leaves_complementLeaf (c : Char) : (complementLeaf c).leaves.length = 1 := by
  unfold complementLeaf
  cases Signal.constant? c with
  | some v => rfl
  | none => rfl

/-- **The expansion has the full size**, for either polarity. -/
theorem length_leaves_expandUnder (e : Formula) (negated : Bool) :
    (e.expandUnder negated).leaves.length = e.fullSize := by
  induction e generalizing negated with
  | leaf c =>
      cases negated with
      | false => rfl
      | true => exact length_leaves_complementLeaf c
  | not a ih => exact ih (!negated)
  | binary op a b iha ihb =>
      rw [fullSize_binary, Connective.copies, expandUnder]
      cases op.family <;> cases (negated ^^ op.inverting) <;>
        simp only [leaves, List.length_append, iha, ihb, reduceCtorEq, if_true, if_false] <;>
        omega

-- ── The count taken beforehand ─────────────────────────────────────

/-- The greatest count is the greatest number of 64 bits. -/
theorem largestCount_eq : 2 ^ 64 - 1 = largestCount := by decide

/-- Counts that stopped add up as if they had not. -/
theorem addCounts_min (m n : Nat) :
    addCounts (min m largestCount) (min n largestCount) = min (m + n) largestCount := by
  unfold addCounts
  omega

/-- **The count is the full size**, up to the greatest count, for a
    formula and for its complement. -/
theorem leafCounts_eq (e : Formula) :
    e.leafCounts = (min e.fullSize largestCount, min e.fullSize largestCount) := by
  induction e with
  | leaf c => rfl
  | not a ih => rw [leafCounts, ih]; rfl
  | binary op a b iha ihb =>
      -- both polarities of an exclusive connective add up all four counts
      have hall : a.fullSize + a.fullSize + b.fullSize + b.fullSize
          = 2 * (a.fullSize + b.fullSize) := by omega
      rw [leafCounts, iha, ihb, fullSize_binary, Connective.copies]
      cases op.family <;> cases op.inverting <;> simp [addCounts_min, hall]

/-- **The count is the full size**, up to the greatest count, in the
    positive polarity. -/
theorem expandedSize_eq (e : Formula) : e.expandedSize = min e.fullSize largestCount := by
  rw [expandedSize, leafCounts_eq]

/-- **The count taken beforehand is the size of what will be built**, up
    to the greatest number of 64 bits, for the expansion of a formula and
    for the expansion of its complement; and both have the same size. -/
theorem leafCounts_eq_length_expand (e : Formula) :
    e.leafCounts = (min e.expand.leaves.length (2 ^ 64 - 1),
        min (Formula.not e).expand.leaves.length (2 ^ 64 - 1)) ∧
      e.expandedSize = min e.expand.leaves.length (2 ^ 64 - 1) ∧
      e.expand.leaves.length = (Formula.not e).expand.leaves.length := by
  have hexpand : e.expand.leaves.length = e.fullSize := length_leaves_expandUnder e false
  have hcomplement : (Formula.not e).expand.leaves.length = e.fullSize :=
    length_leaves_expandUnder e true
  rw [hexpand, hcomplement, largestCount_eq]
  exact ⟨leafCounts_eq e, expandedSize_eq e, rfl⟩

-- a formula is counted even where its expansion could never be built
example : ((List.replicate 200 (leaf 'a')).foldl xor (leaf 'a')).expandedSize = 2 ^ 64 - 1 := by
  decide +kernel

end Formula

-- ── The network has this size ──────────────────────────────────────

namespace Network

@[simp] theorem deviceCount_device (d : Device) : (device d).deviceCount = 1 := by
  simp [deviceCount]

@[simp] theorem deviceCount_series (parts : List Network) :
    (series parts).deviceCount = (parts.map deviceCount).sum := by
  simp [deviceCount, List.sum]

@[simp] theorem deviceCount_parallel (parts : List Network) :
    (parallel parts).deviceCount = (parts.map deviceCount).sum := by
  simp [deviceCount, List.sum]

/-- The devices of the parts are counted part by part. -/
theorem length_flatMap_devices {parts : List Network}
    (h : ∀ n ∈ parts, n.deviceCount = n.devices.length) :
    (parts.map deviceCount).sum = (parts.flatMap devices).length := by
  rw [List.length_flatMap]
  exact congrArg List.sum (List.map_congr_left h)

/-- The number of devices is the length of their list. -/
theorem deviceCount_eq_length (n : Network) : n.deviceCount = n.devices.length := by
  induction n with
  | device d => simp
  | series parts ih => rw [devices_series, ← length_flatMap_devices ih, deviceCount_series]
  | parallel parts ih => rw [devices_parallel, ← length_flatMap_devices ih, deviceCount_parallel]

/-- The dual network has as many devices. -/
theorem deviceCount_dual (n : Network) : n.dual.deviceCount = n.deviceCount := by
  rw [deviceCount_eq_length, devices_dual, List.length_map, ← deviceCount_eq_length]

/-- The network of a formula has a device for each leaf. -/
theorem deviceCount_ofFormula {e : Formula} {n : Network} (h : ofFormula e = .ok n) :
    n.deviceCount = e.leaves.length := by
  rw [deviceCount_eq_length, devices_ofFormula h, List.length_map, ← Formula.map_fst_literals,
    List.length_map]

/-- A formula in expanded form has a network. -/
theorem exists_ofFormula {e : Formula} (h : e.isExpanded = true) : ∃ n, ofFormula e = .ok n := by
  refine Formula.isExpanded_induction (P := fun e => ∃ n, ofFormula e = .ok n)
    (fun c => ⟨_, rfl⟩) (fun c _ => ⟨_, rfl⟩) (fun a b ha hb => ?_) (fun a b ha hb => ?_) h
  · obtain ⟨m₁, h₁⟩ := ha
    obtain ⟨m₂, h₂⟩ := hb
    exact ⟨.series [m₁, m₂], by rw [ofFormula, h₁, h₂]; rfl⟩
  · obtain ⟨m₁, h₁⟩ := ha
    obtain ⟨m₂, h₂⟩ := hb
    exact ⟨.parallel [m₁, m₂], by rw [ofFormula, h₁, h₂]; rfl⟩

end Network

-- ── Synthesis ──────────────────────────────────────────────────────

namespace Circuit

/-- **The two outcomes of synthesis.**  A formula whose size exceeds the
    limit is refused with that size, and every other formula gets a
    circuit. -/
theorem synthesize_cases (e : Formula) (maxDevices : Nat) :
    (maxDevices < min e.fullSize largestCount ∧
        synthesize e maxDevices
          = .error (.networkTooLarge (min e.fullSize largestCount) maxDevices)) ∨
      (min e.fullSize largestCount ≤ maxDevices ∧ ∃ c, synthesize e maxDevices = .ok c) := by
  obtain ⟨n, hn⟩ := Network.exists_ofFormula (Formula.isExpanded_expandUnder e.seed.1 false)
  have hnet : Network.ofFormula e.seed.1.expand = .ok n := hn
  simp only [synthesize, Formula.expandedSize_eq, Formula.fullSize_seed, hnet]
  by_cases h : maxDevices < min e.fullSize largestCount
  · exact .inl ⟨h, if_pos h⟩
  · exact .inr ⟨Nat.le_of_not_lt h, _, if_neg h⟩

/-- A synthesized circuit has both networks in full size. -/
theorem deviceCount_of_synthesize {e : Formula} {maxDevices : Nat} {c : Circuit}
    (hc : synthesize e maxDevices = .ok c) :
    c.pulldown.deviceCount = e.fullSize ∧ c.pullup.deviceCount = e.fullSize := by
  obtain ⟨-, hcore, hnet, hdual, -, -⟩ := synthesize_eq_ok hc
  have hdown : c.pulldown.deviceCount = e.fullSize := by
    rw [Network.deviceCount_ofFormula hnet, hcore, Formula.expand,
      Formula.length_leaves_expandUnder, Formula.fullSize_seed]
  exact ⟨hdown, by rw [hdual, Network.deviceCount_dual, hdown]⟩

/-- **Synthesis fails exactly where the network would be too large.**  It
    is refused if and only if the full size, up to the greatest number of
    64 bits, exceeds the limit, and only with that size; otherwise both
    networks have as many devices as the full size says. -/
theorem synthesize_fails_iff (e : Formula) (maxDevices : Nat) :
    ((∃ err, synthesize e maxDevices = .error err) ↔
        min e.fullSize (2 ^ 64 - 1) > maxDevices) ∧
      (∀ err, synthesize e maxDevices = .error err →
        err = .networkTooLarge (min e.fullSize (2 ^ 64 - 1)) maxDevices) ∧
      (¬ min e.fullSize (2 ^ 64 - 1) > maxDevices →
        ∃ c, synthesize e maxDevices = .ok c ∧
          c.pulldown.deviceCount = e.fullSize ∧ c.pullup.deviceCount = e.fullSize) := by
  rw [Formula.largestCount_eq]
  rcases synthesize_cases e maxDevices with ⟨hlarge, herror⟩ | ⟨hfits, c, hc⟩
  · refine ⟨⟨fun _ => hlarge, fun _ => ⟨_, herror⟩⟩, fun err h => ?_, fun h => absurd hlarge h⟩
    exact Except.error.inj (h.symm.trans herror)
  · refine ⟨⟨?_, fun h => absurd hfits (Nat.not_le_of_lt h)⟩, ?_, fun _ => ⟨c, hc, ?_⟩⟩
    · rintro ⟨err, h⟩
      exact nomatch hc.symm.trans h
    · intro err h
      exact nomatch hc.symm.trans h
    · exact deviceCount_of_synthesize hc

/-- The parity of four inputs takes 22 devices in each network: the two
    innermost inputs count eight times, the next four times and the last
    twice. -/
theorem synthesize_fails_iff_parity :
    let e := Formula.xor (.xor (.xor (.leaf 'a') (.leaf 'b')) (.leaf 'c')) (.leaf 'd')
    e.exclusivesAbove 0 = [3, 3, 2, 1] ∧ e.fullSize = 22 ∧
      (∃ c, synthesize e 22 = .ok c ∧ c.pulldown.deviceCount = 22 ∧
        c.pullup.deviceCount = 22) ∧
      synthesize e 21 = .error (.networkTooLarge 22 21) := by
  intro e
  have hsize : e.fullSize = 22 := by decide
  obtain ⟨-, -, hfits⟩ := synthesize_fails_iff e 22
  obtain ⟨hfails, hreason, -⟩ := synthesize_fails_iff e 21
  rw [hsize] at hfits hfails hreason
  obtain ⟨err, herr⟩ := hfails.mpr (by decide)
  refine ⟨rfl, hsize, hfits (by decide), ?_⟩
  rw [herr, hreason err herr]
  rfl

end Circuit

end SwitchLogic
