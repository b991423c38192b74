import Mathlib.Data.List.MinMax
import Mathlib.Data.List.Sections
import Mathlib.Order.Bounds.Defs
import SwitchLogic.Proofs.Extension
import SwitchLogic.Proofs.StackHeight

/-! # Paths and cuts

    A path leads from one terminal of a network to the other: through
    every part of a series connection in turn, and through one part of a
    parallel connection.  A cut separates the terminals; it is what is a
    path of the dual network.  There may be exponentially many of both.

    The two measures of a network that are computed part by part are
    facts about all of them at once.  The stack height is the length of
    the longest path, and that of the dual network the length of the
    longest cut.  A network conducts when every device of some path does,
    and does not when no device of some cut does; one of the two is always
    the case, where all gates have values. -/

namespace SwitchLogic

namespace Network

-- ── Paths ──────────────────────────────────────────────────────────

/-- The paths between the terminals, each with its devices in order: one
    path of each part, put together, for a series connection, and the
    paths of all parts for a parallel one. -/
def paths : Network → List (List Device) :=
  fold (fun d => [[d]]) (fun parts => (List.sections parts).map List.flatten) List.flatten

/-- The cuts between the terminals: the paths of the dual network, with
    the devices as they are in the network itself. -/
def cuts (n : Network) : List (List Device) := n.dual.paths.map (·.map Device.dual)

variable {parts : List Network} {n : Network} {p : List Device}

theorem paths_device (d : Device) : (device d).paths = [[d]] := by
  simp [paths]

/-- A path through a series connection is a path through each part, one
    behind the other. -/
theorem mem_paths_series : p ∈ (series parts).paths ↔
    ∃ ps, List.Forall₂ (fun q n => q ∈ n.paths) ps parts ∧ ps.flatten = p := by
  simp [paths, List.mem_sections, List.forall₂_map_right_iff]

/-- A path through a parallel connection is a path through one part. -/
theorem mem_paths_parallel : p ∈ (parallel parts).paths ↔ ∃ n ∈ parts, p ∈ n.paths := by
  simp [paths]

theorem mem_paths_series_nil : p ∈ (series []).paths ↔ p = [] := by
  simp [mem_paths_series, eq_comm]

/-- A path through one part more goes on where it left the first. -/
theorem mem_paths_series_cons : p ∈ (series (n :: parts)).paths ↔
    ∃ q ∈ n.paths, ∃ r ∈ (series parts).paths, q ++ r = p := by
  simp only [mem_paths_series, List.forall₂_cons_right_iff]
  constructor
  · rintro ⟨_, ⟨q, ps, hq, hps, rfl⟩, rfl⟩
    exact ⟨q, hq, ps.flatten, ⟨ps, hps, rfl⟩, rfl⟩
  · rintro ⟨q, hq, _, ⟨ps, hps, rfl⟩, rfl⟩
    exact ⟨q :: ps, ⟨q, ps, hq, hps, rfl⟩, rfl⟩

-- ── The longest path ───────────────────────────────────────────────

/-- The lengths of the paths. -/
def pathLengths (n : Network) : Set Nat := {k | ∃ p ∈ n.paths, p.length = k}

/-- The longest path through a device has one device. -/
theorem isGreatest_pathLengths_device (d : Device) :
    IsGreatest (device d).pathLengths (device d).stackHeight := by
  simp [pathLengths, paths_device, IsGreatest, upperBounds]

/-- The longest path in series consists of the longest ones. -/
theorem isGreatest_pathLengths_series
    (h : ∀ n ∈ parts, IsGreatest n.pathLengths n.stackHeight) :
    IsGreatest (series parts).pathLengths (series parts).stackHeight := by
  induction parts with
  | nil =>
      refine ⟨⟨[], mem_paths_series_nil.mpr rfl, by simp⟩, ?_⟩
      rintro _ ⟨p, hp, rfl⟩
      rw [mem_paths_series_nil.mp hp]
      exact Nat.zero_le _
  | cons n rest ih =>
      obtain ⟨⟨q, hq, hqlength⟩, hqle⟩ := h n List.mem_cons_self
      obtain ⟨⟨r, hr, hrlength⟩, hrle⟩ := ih fun m hm => h m (List.mem_cons_of_mem n hm)
      have hheight : (series (n :: rest)).stackHeight
          = n.stackHeight + (series rest).stackHeight := by
        rw [stackHeight_series, List.map_cons, List.sum_cons, stackHeight_series]
      rw [hheight]
      refine ⟨⟨q ++ r, mem_paths_series_cons.mpr ⟨q, hq, r, hr, rfl⟩, ?_⟩, ?_⟩
      · rw [List.length_append, hqlength, hrlength]
      · rintro _ ⟨p, hp, rfl⟩
        obtain ⟨q', hq', r', hr', rfl⟩ := mem_paths_series_cons.mp hp
        rw [List.length_append]
        exact Nat.add_le_add (hqle ⟨q', hq', rfl⟩) (hrle ⟨r', hr', rfl⟩)

/-- The greatest of some numbers is one of them. -/
theorem greatest_mem {counts : List Nat} (h : counts ≠ []) : greatest counts ∈ counts := by
  induction counts with
  | nil => exact absurd rfl h
  | cons k rest ih =>
      rw [greatest_cons]
      cases rest with
      | nil => simp [greatest]
      | cons l rest =>
          rcases Nat.le_total (greatest (l :: rest)) k with hle | hle
          · rw [Nat.max_eq_left hle]
            exact List.mem_cons_self
          · rw [Nat.max_eq_right hle]
            exact List.mem_cons_of_mem k (ih (List.cons_ne_nil l rest))

/-- The longest path in parallel is that of the highest part. -/
theorem isGreatest_pathLengths_parallel (hparts : parts ≠ [])
    (h : ∀ n ∈ parts, IsGreatest n.pathLengths n.stackHeight) :
    IsGreatest (parallel parts).pathLengths (parallel parts).stackHeight := by
  rw [stackHeight_parallel]
  constructor
  · have hne : parts.map stackHeight ≠ [] := mt List.map_eq_nil_iff.mp hparts
    obtain ⟨n, hn, hheight⟩ := List.mem_map.mp (greatest_mem hne)
    obtain ⟨p, hp, hlength⟩ := (h n hn).1
    exact ⟨p, mem_paths_parallel.mpr ⟨n, hn, hp⟩, hlength.trans hheight⟩
  · rintro _ ⟨p, hp, rfl⟩
    obtain ⟨n, hn, hp⟩ := mem_paths_parallel.mp hp
    exact List.le_max_of_le' 0 (List.mem_map_of_mem hn) ((h n hn).2 ⟨p, hp, rfl⟩)

/-- **The stack height is the length of the longest path.** -/
theorem isGreatest_pathLengths (hn : n.isWellFormed = true) :
    IsGreatest n.pathLengths n.stackHeight :=
  isWellFormed_induction (P := fun n => IsGreatest n.pathLengths n.stackHeight)
    isGreatest_pathLengths_device (fun _ _ _ ih => isGreatest_pathLengths_series ih)
    (fun _ hne _ ih => isGreatest_pathLengths_parallel hne ih) hn

-- ── Conduction along paths ─────────────────────────────────────────

/-- Whether some path of a network has only devices with a property. -/
def Linked (P : Device → Prop) (n : Network) : Prop := ∃ p ∈ n.paths, ∀ d ∈ p, P d

variable {P : Device → Prop}

/-- A device is linked where it satisfies the condition. -/
theorem linked_device {d : Device} : Linked P (device d) ↔ P d := by
  simp [Linked, paths_device]

/-- A series connection is linked where each part is. -/
theorem linked_series : Linked P (series parts) ↔ ∀ n ∈ parts, Linked P n := by
  induction parts with
  | nil => simp [Linked, mem_paths_series_nil]
  | cons n rest ih =>
      rw [List.forall_mem_cons, ← ih]
      constructor
      · rintro ⟨p, hp, hall⟩
        obtain ⟨q, hq, r, hr, rfl⟩ := mem_paths_series_cons.mp hp
        rw [List.forall_mem_append] at hall
        exact ⟨⟨q, hq, hall.1⟩, r, hr, hall.2⟩
      · rintro ⟨⟨q, hq, hqall⟩, r, hr, hrall⟩
        exact ⟨q ++ r, mem_paths_series_cons.mpr ⟨q, hq, r, hr, rfl⟩,
          List.forall_mem_append.mpr ⟨hqall, hrall⟩⟩

/-- A parallel connection is linked where some part is. -/
theorem linked_parallel : Linked P (parallel parts) ↔ ∃ n ∈ parts, Linked P n := by
  simp only [Linked, mem_paths_parallel]
  constructor
  · rintro ⟨p, ⟨n, hn, hp⟩, hall⟩
    exact ⟨n, hn, p, hp, hall⟩
  · rintro ⟨n, hn, p, hp, hall⟩
    exact ⟨p, ⟨n, hn, hp⟩, hall⟩

/-- A connection comes out undecided where no part decides it. -/
theorem firstDecision_eq_ok_not_iff (decisive : Bool) {outcomes : List (Except Error Bool)} :
    firstDecision decisive outcomes = .ok (!decisive) ↔ ∀ o ∈ outcomes, o = .ok (!decisive) := by
  induction outcomes with
  | nil => simp [firstDecision]
  | cons o rest ih =>
      rw [List.forall_mem_cons, ← ih]
      cases o with
      | error err => simp [firstDecision]
      | ok v => cases v <;> cases decisive <;> simp [firstDecision]

/-- Where all parts have outcomes, one that decides is enough. -/
theorem firstDecision_eq_ok_iff_mem {decisive : Bool} {outcomes : List (Except Error Bool)}
    (h : ∀ o ∈ outcomes, ∃ v, o = .ok v) :
    firstDecision decisive outcomes = .ok decisive ↔ .ok decisive ∈ outcomes := by
  induction outcomes with
  | nil => simp [firstDecision]
  | cons o rest ih =>
      obtain ⟨v, rfl⟩ := h o List.mem_cons_self
      have hrest := ih fun o ho => h o (List.mem_cons_of_mem _ ho)
      by_cases hv : v = decisive
      · simp [firstDecision, hv]
      · rw [firstDecision, if_neg hv, hrest]
        simp [Ne.symm hv]

variable {s : Assignment}

/-- A well-formed network has an outcome where each gate has a value. -/
theorem exists_conducts (hn : n.isWellFormed = true)
    (hgates : ∀ d ∈ n.devices, s.lacks d.gate = false) : ∃ v, n.conducts s = .ok v := by
  cases houtcome : n.conducts s with
  | ok v => exact ⟨v, rfl⟩
  | error err =>
      obtain ⟨d, hd, hfails⟩ := exists_device_of_conducts_eq_error hn houtcome
      cases (hgates d hd).symm.trans (device_conducts_eq_error hfails).1

/-- **A network conducts along a path.** -/
theorem conducts_iff_linked (hn : n.isWellFormed = true)
    (hgates : ∀ d ∈ n.devices, s.lacks d.gate = false) :
    n.conducts s = .ok true ↔ Linked (fun d => d.conducts s = .ok true) n := by
  revert hgates
  refine isWellFormed_induction
    (P := fun n => (∀ d ∈ n.devices, s.lacks d.gate = false) →
      (n.conducts s = .ok true ↔ Linked (fun d => d.conducts s = .ok true) n))
    (fun d _ => ?_) (fun parts hne _ ih hgates => ?_) (fun parts hne hparts ih hgates => ?_) hn
  · rw [conducts, linked_device]
  · rw [devices_series, List.forall_mem_flatMap] at hgates
    rw [linked_series, conducts_series s (List.isEmpty_eq_false_iff.mpr hne)]
    refine (firstDecision_eq_ok_not_iff false).trans ?_
    rw [List.forall_mem_map]
    exact forall₂_congr fun n hn => ih n hn (hgates n hn)
  · rw [devices_parallel, List.forall_mem_flatMap] at hgates
    -- a part without an outcome would stop the search before a part that conducts
    have houtcomes : ∀ o ∈ parts.map (conducts s), ∃ v, o = .ok v :=
      List.forall_mem_map.mpr fun n hn => exists_conducts (hparts n hn) (hgates n hn)
    rw [linked_parallel, conducts_parallel s (List.isEmpty_eq_false_iff.mpr hne),
      firstDecision_eq_ok_iff_mem houtcomes, List.mem_map]
    exact exists_congr fun n => and_congr_right fun hn => ih n hn (hgates n hn)

-- ── Cuts ───────────────────────────────────────────────────────────

/-- The dual of a well-formed network is well-formed. -/
theorem isWellFormed_dual (hn : n.isWellFormed = true) : n.dual.isWellFormed = true := by
  refine isWellFormed_induction (P := fun n => n.dual.isWellFormed = true) (fun d => rfl)
    (fun parts hne _ ih => ?_) (fun parts hne _ ih => ?_) hn
  · rw [dual_series, isWellFormed_parallel_iff, List.forall_mem_map]
    exact ⟨mt List.map_eq_nil_iff.mp hne, ih⟩
  · rw [dual_parallel, isWellFormed_series_iff, List.forall_mem_map]
    exact ⟨mt List.map_eq_nil_iff.mp hne, ih⟩

/-- A cut is as long as the path of the dual network that it comes from. -/
theorem setOf_length_cuts (n : Network) :
    {k | ∃ p ∈ n.cuts, p.length = k} = n.dual.pathLengths := by
  simp [pathLengths, cuts]

/-- A path of the dual network that conducts is a cut that does not. -/
theorem linked_dual_iff : Linked (fun d => d.conducts s = .ok true) n.dual ↔
    ∃ c ∈ n.cuts, ∀ d ∈ c, d.conducts s = .ok false := by
  have hdevice : ∀ d : Device, d.dual.conducts s = .ok false ↔ d.conducts s = .ok true := by
    intro d
    rw [device_conducts_dual, map_not_eq_ok_iff, Bool.not_false]
  constructor
  · rintro ⟨p, hp, hall⟩
    exact ⟨p.map Device.dual, List.mem_map_of_mem hp,
      List.forall_mem_map.mpr fun d hd => (hdevice d).mpr (hall d hd)⟩
  · rintro ⟨c, hc, hall⟩
    obtain ⟨p, hp, rfl⟩ := List.mem_map.mp hc
    exact ⟨p, hp, fun d hd => (hdevice d).mp (List.forall_mem_map.mp hall d hd)⟩

/-- **A network is blocked along a cut.** -/
theorem conducts_eq_false_iff_cut (hn : n.isWellFormed = true)
    (hgates : ∀ d ∈ n.devices, s.lacks d.gate = false) :
    n.conducts s = .ok false ↔ ∃ c ∈ n.cuts, ∀ d ∈ c, d.conducts s = .ok false := by
  have hdual : ∀ d ∈ n.dual.devices, s.lacks d.gate = false := by
    rw [devices_dual, List.forall_mem_map]
    exact hgates
  -- the cuts are the paths of the dual network, which conducts where this one does not
  have hlinked := conducts_iff_linked (isWellFormed_dual hn) hdual
  rwa [conducts_dual_network, map_not_eq_ok_iff, Bool.not_true, linked_dual_iff] at hlinked

/-- **Networks mean their paths and cuts.**  In a well-formed network the
    stack height is the greatest length of a path, and the stack height
    of the dual network the greatest length of a cut.  Where the gates
    have values, the network has an outcome: it conducts if and only if
    all devices of some path conduct, and does not if and only if no
    device of some cut does. -/
theorem conducts_iff_paths_cuts (n : Network) (hn : n.isWellFormed = true) :
    IsGreatest {k | ∃ p ∈ n.paths, p.length = k} n.stackHeight ∧
      IsGreatest {k | ∃ c ∈ n.cuts, c.length = k} n.dual.stackHeight ∧
      ∀ s : Assignment,
        (∀ d ∈ n.devices, Signal.constant? d.gate = none → (s.get? d.gate).isSome = true) →
        (∃ v, n.conducts s = .ok v) ∧
          (n.conducts s = .ok true ↔ ∃ p ∈ n.paths, ∀ d ∈ p, d.conducts s = .ok true) ∧
          (n.conducts s = .ok false ↔ ∃ c ∈ n.cuts, ∀ d ∈ c, d.conducts s = .ok false) := by
  refine ⟨isGreatest_pathLengths hn, ?_, fun s hvalues => ?_⟩
  · rw [setOf_length_cuts]
    exact isGreatest_pathLengths (isWellFormed_dual hn)
  · have hgates : ∀ d ∈ n.devices, s.lacks d.gate = false := fun d hd =>
      Assignment.lacks_eq_false (hvalues d hd)
    exact ⟨exists_conducts hn hgates, conducts_iff_linked hn hgates,
      conducts_eq_false_iff_cut hn hgates⟩

/-- A choice between `a`, the low rail and two devices in series, with
    `d` behind it.  Where `a` is low, the path of three devices connects
    the terminals; where `d` is low too, the cut `d` separates them. -/
theorem conducts_iff_paths_cuts_choice :
    let a : Device := ⟨.nmos, 'a', false⟩
    let low : Device := ⟨.nmos, '0', false⟩
    let b : Device := ⟨.pmos, 'b', false⟩
    let c : Device := ⟨.nmos, 'c', true⟩
    let d : Device := ⟨.nmos, 'd', false⟩
    let n := series [parallel [device a, device low, series [device b, device c]], device d]
    let s : Bool → Assignment := fun v => ⟨[('a', false), ('b', false), ('c', false), ('d', v)]⟩
    n.paths = [[a, d], [low, d], [b, c, d]] ∧
      n.cuts = [[a, low, b], [a, low, c], [d]] ∧
      IsGreatest {k | ∃ p ∈ n.paths, p.length = k} 3 ∧
      IsGreatest {k | ∃ p ∈ n.cuts, p.length = k} 3 ∧
      n.conducts (s true) = .ok true ∧ n.conducts (s false) = .ok false := by
  intro a low b c d n s
  have hn : n.isWellFormed = true := rfl
  have hpaths : n.paths = [[a, d], [low, d], [b, c, d]] := rfl
  have hcuts : n.cuts = [[a, low, b], [a, low, c], [d]] := rfl
  have hvalues : ∀ v, ∀ x ∈ n.devices,
      Signal.constant? x.gate = none → ((s v).get? x.gate).isSome = true := by
    intro v
    show ∀ x ∈ [a, low, b, c, d], _
    simp only [List.forall_mem_cons, List.not_mem_nil, false_implies, implies_true, and_true]
    exact ⟨fun _ => rfl, fun h => absurd h (Option.some_ne_none false), fun _ => rfl,
      fun _ => rfl, fun _ => rfl⟩
  obtain ⟨hlongest, hwidest, hconducts⟩ := conducts_iff_paths_cuts n hn
  obtain ⟨-, hon, -⟩ := hconducts (s true) (hvalues true)
  obtain ⟨-, -, hoff⟩ := hconducts (s false) (hvalues false)
  have hpath : ∀ x ∈ [b, c, d], x.conducts (s true) = .ok true := by
    simp only [List.forall_mem_cons, List.not_mem_nil, false_implies, implies_true, and_true]
    exact ⟨rfl, rfl, rfl⟩
  have hcut : ∀ x ∈ [d], x.conducts (s false) = .ok false := List.forall_mem_singleton.mpr rfl
  refine ⟨hpaths, hcuts, hlongest, hwidest, hon.mpr ⟨[b, c, d], ?_, hpath⟩,
    hoff.mpr ⟨[d], ?_, hcut⟩⟩
  · rw [hpaths]
    simp
  · rw [hcuts]
    simp

end Network

end SwitchLogic
