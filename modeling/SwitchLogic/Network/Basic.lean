/-! # Switch networks

    The two kinds of transistor are ideal switches.  An nmos conducts
    when its gate is high and a pmos when its gate is low, so each is
    the dual of the other.

    A network connects devices in series and in parallel, to any number
    of parts.  Every measure of a network is a fold over its shape, so
    the equations of the fold are the equations of the measure.  The
    dual network exchanges the two connections and the two kinds of
    transistor. -/

namespace SwitchLogic

-- ── Switches ───────────────────────────────────────────────────────

/-- The kinds of transistor. -/
inductive Transistor where
  | nmos
  | pmos
  deriving DecidableEq

namespace Transistor

/-- The other kind. -/
def dual : Transistor → Transistor
  | .nmos => .pmos
  | .pmos => .nmos

/-- Whether a transistor conducts at the given level of its gate. -/
def conducts : Transistor → Bool → Bool
  | .nmos, gate => gate
  | .pmos, gate => !gate

/-- The name of a kind. -/
def text : Transistor → List Char
  | .nmos => ['n', 'm', 'o', 's']
  | .pmos => ['p', 'm', 'o', 's']

@[simp] theorem dual_dual (k : Transistor) : k.dual.dual = k := by cases k <;> rfl

/-- **The two kinds complement each other**: at the same level exactly one
    conducts. -/
@[simp] theorem conducts_dual (k : Transistor) (gate : Bool) :
    k.dual.conducts gate = !k.conducts gate := by
  cases k <;> cases gate <;> rfl

end Transistor

/-- A transistor, the signal of its gate, and whether that signal passes
    through an inverter first. -/
structure Device where
  kind : Transistor
  gate : Char
  inverted : Bool
  deriving DecidableEq

namespace Device

/-- The device of the other kind on the same gate signal. -/
def dual (d : Device) : Device := { d with kind := d.kind.dual }

/-- The written form of a device: its kind and its gate signal. -/
def text (d : Device) : List Char :=
  d.kind.text ++ ' ' :: (if d.inverted then ['!', d.gate] else [d.gate])

@[simp] theorem dual_dual (d : Device) : d.dual.dual = d := by simp [dual]

end Device

-- ── Networks ───────────────────────────────────────────────────────

/-- A network of switches between two terminals. -/
inductive Network where
  | device (d : Device)
  | series (parts : List Network)
  | parallel (parts : List Network)

namespace Network

/-- **Induction on networks**, with a hypothesis for every part of a
    connection. -/
@[elab_as_elim, induction_eliminator]
theorem inductionOn {motive : Network → Prop}
    (device : ∀ d, motive (.device d))
    (series : ∀ parts, (∀ n ∈ parts, motive n) → motive (.series parts))
    (parallel : ∀ parts, (∀ n ∈ parts, motive n) → motive (.parallel parts))
    (n : Network) : motive n :=
  match n with
  | .device d => device d
  | .series parts => series parts fun n _ => inductionOn device series parallel n
  | .parallel parts => parallel parts fun n _ => inductionOn device series parallel n

-- ── Equality ───────────────────────────────────────────────────────

mutual

/-- Decides whether two networks are equal. -/
def decideEq : (m n : Network) → Decidable (m = n)
  | .device d, .device e =>
      if h : d = e then isTrue (by rw [h]) else isFalse (by simpa using h)
  | .series ps, .series qs =>
      match decideEqList ps qs with
      | isTrue h => isTrue (by rw [h])
      | isFalse h => isFalse (by simpa using h)
  | .parallel ps, .parallel qs =>
      match decideEqList ps qs with
      | isTrue h => isTrue (by rw [h])
      | isFalse h => isFalse (by simpa using h)
  | .device _, .series _ => isFalse (by simp)
  | .device _, .parallel _ => isFalse (by simp)
  | .series _, .device _ => isFalse (by simp)
  | .series _, .parallel _ => isFalse (by simp)
  | .parallel _, .device _ => isFalse (by simp)
  | .parallel _, .series _ => isFalse (by simp)

/-- Decides whether two lists of networks are equal. -/
def decideEqList : (ms ns : List Network) → Decidable (ms = ns)
  | [], [] => isTrue rfl
  | [], _ :: _ => isFalse (by simp)
  | _ :: _, [] => isFalse (by simp)
  | m :: ms, n :: ns =>
      match decideEq m n, decideEqList ms ns with
      | isTrue h, isTrue hs => isTrue (by rw [h, hs])
      | isFalse h, _ => isFalse (by simp [h])
      | _, isFalse hs => isFalse (by simp [hs])

end

instance : DecidableEq Network := decideEq

-- ── Folds ──────────────────────────────────────────────────────────

section Fold

variable {α : Type} (onDevice : Device → α) (onSeries onParallel : List α → α)

mutual

/-- Combines the devices of a network along its connections. -/
def fold : Network → α
  | .device d => onDevice d
  | .series parts => onSeries (foldList parts)
  | .parallel parts => onParallel (foldList parts)

/-- The folds of a list of networks. -/
def foldList : List Network → List α
  | [] => []
  | n :: rest => fold n :: foldList rest

end

/-- A list is folded network by network. -/
theorem foldList_eq_map (parts : List Network) :
    foldList onDevice onSeries onParallel parts
      = parts.map (fold onDevice onSeries onParallel) := by
  induction parts with
  | nil => simp [foldList]
  | cons n rest ih => simp [foldList, ih]

@[simp] theorem fold_device (d : Device) :
    fold onDevice onSeries onParallel (.device d) = onDevice d := by
  simp [fold]

@[simp] theorem fold_series (parts : List Network) :
    fold onDevice onSeries onParallel (.series parts)
      = onSeries (parts.map (fold onDevice onSeries onParallel)) := by
  simp [fold, foldList_eq_map]

@[simp] theorem fold_parallel (parts : List Network) :
    fold onDevice onSeries onParallel (.parallel parts)
      = onParallel (parts.map (fold onDevice onSeries onParallel)) := by
  simp [fold, foldList_eq_map]

end Fold

-- ── Measures ───────────────────────────────────────────────────────

/-- The network with connections and kinds of transistor exchanged. -/
def dual : Network → Network :=
  fold (fun d => .device d.dual) .parallel .series

@[simp] theorem dual_device (d : Device) : (device d).dual = device d.dual := by
  simp [dual]

@[simp] theorem dual_series (parts : List Network) :
    (series parts).dual = parallel (parts.map dual) := by
  simp [dual]

@[simp] theorem dual_parallel (parts : List Network) :
    (parallel parts).dual = series (parts.map dual) := by
  simp [dual]

/-- Parts that are their own double duals are so together. -/
theorem map_dual_dual {parts : List Network} (h : ∀ n ∈ parts, n.dual.dual = n) :
    (parts.map dual).map dual = parts := by
  rw [List.map_map]
  exact (List.map_congr_left h).trans (List.map_id parts)

/-- Exchanging twice changes nothing. -/
@[simp] theorem dual_dual (n : Network) : n.dual.dual = n := by
  induction n with
  | device d => simp
  | series parts ih => rw [dual_series, dual_parallel, map_dual_dual ih]
  | parallel parts ih => rw [dual_parallel, dual_series, map_dual_dual ih]

/-- The devices, left to right. -/
def devices : Network → List Device :=
  fold (fun d => [d]) List.flatten List.flatten

@[simp] theorem devices_device (d : Device) : (device d).devices = [d] := by
  simp [devices]

@[simp] theorem devices_series (parts : List Network) :
    (series parts).devices = parts.flatMap devices := by
  simp [devices, List.flatMap]

@[simp] theorem devices_parallel (parts : List Network) :
    (parallel parts).devices = parts.flatMap devices := by
  simp [devices, List.flatMap]

/-- The greatest of a list of numbers, or zero. -/
def greatest (counts : List Nat) : Nat := counts.foldr max 0

/-- Number of devices. -/
def deviceCount : Network → Nat :=
  fold (fun _ => 1) (List.foldr (· + ·) 0) (List.foldr (· + ·) 0)

/-- The greatest number of devices in series between the terminals. -/
def stackHeight : Network → Nat :=
  fold (fun _ => 1) (List.foldr (· + ·) 0) greatest

/-- Whether every connection has at least one part. -/
def isWellFormed : Network → Bool :=
  fold (fun _ => true) (fun parts => !parts.isEmpty && parts.all id)
    (fun parts => !parts.isEmpty && parts.all id)

@[simp] theorem isWellFormed_device (d : Device) : (device d).isWellFormed = true := by
  simp [isWellFormed]

@[simp] theorem isWellFormed_series (parts : List Network) :
    (series parts).isWellFormed = (!parts.isEmpty && parts.all isWellFormed) := by
  simp only [isWellFormed, fold_series, List.isEmpty_map, List.all_map]
  rfl

@[simp] theorem isWellFormed_parallel (parts : List Network) :
    (parallel parts).isWellFormed = (!parts.isEmpty && parts.all isWellFormed) := by
  simp only [isWellFormed, fold_parallel, List.isEmpty_map, List.all_map]
  rfl

/-- A series connection is well-formed if it has parts and these are. -/
theorem isWellFormed_series_iff {parts : List Network} : (series parts).isWellFormed = true ↔
    parts ≠ [] ∧ ∀ n ∈ parts, n.isWellFormed = true := by
  simp

/-- So is a parallel connection. -/
theorem isWellFormed_parallel_iff {parts : List Network} : (parallel parts).isWellFormed = true ↔
    parts ≠ [] ∧ ∀ n ∈ parts, n.isWellFormed = true := by
  simp

/-- **Induction on well-formed networks.**  A connection has a part, and
    its parts are well-formed. -/
theorem isWellFormed_induction {P : Network → Prop} (device : ∀ d, P (.device d))
    (series : ∀ parts, parts ≠ [] → (∀ n ∈ parts, n.isWellFormed = true) →
      (∀ n ∈ parts, P n) → P (.series parts))
    (parallel : ∀ parts, parts ≠ [] → (∀ n ∈ parts, n.isWellFormed = true) →
      (∀ n ∈ parts, P n) → P (.parallel parts))
    {n : Network} (hn : n.isWellFormed = true) : P n := by
  induction n with
  | device d => exact device d
  | series parts ih =>
      obtain ⟨hne, hparts⟩ := isWellFormed_series_iff.mp hn
      exact series parts hne hparts fun n hmem => ih n hmem (hparts n hmem)
  | parallel parts ih =>
      obtain ⟨hne, hparts⟩ := isWellFormed_parallel_iff.mp hn
      exact parallel parts hne hparts fun n hmem => ih n hmem (hparts n hmem)

/-- The written form of a connection of written parts. -/
def connectionText (name : List Char) (parts : List (List Char)) : List Char :=
  name ++ '(' :: ([',', ' '].intercalate parts ++ [')'])

/-- The written form of a network. -/
def text : Network → List Char :=
  fold Device.text (connectionText "series".toList) (connectionText "parallel".toList)

end Network

end SwitchLogic
