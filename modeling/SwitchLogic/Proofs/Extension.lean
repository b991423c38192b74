import SwitchLogic.Circuit.Simulation
import SwitchLogic.Proofs.Conduction

/-! # Partial assignments

    An assignment may leave signals without a value.  A formula then has
    an outcome all the same: its value if every leaf has one, and
    otherwise a report of the leftmost leaf that has none.  A network
    may have a value where the formula that it was built from has not,
    since it stops at the first part that decides; where it fails, the
    gate of one of its devices has no value.

    Assigning more signals never changes a value that was found.  This
    holds of formulas, networks and circuits alike: what was read had a
    value already, so the larger assignment is read in the same places. -/

namespace SwitchLogic

namespace Assignment

/-- Whether a signal is a variable to which the assignment gives no
    value. -/
def lacks (s : Assignment) (name : Char) : Bool :=
  (Signal.constant? name).isNone && (s.get? name).isNone

/-- An assignment extends another that it agrees with wherever the other
    gives a value. -/
def Extends (s' s : Assignment) : Prop :=
  ∀ name value, s.get? name = some value → s'.get? name = some value

/-- What lacks a value is a variable that the assignment leaves out. -/
theorem lacks_eq_true_iff {s : Assignment} {c : Char} :
    s.lacks c = true ↔ Signal.constant? c = none ∧ s.get? c = none := by
  simp [lacks]

/-- A signal that lacks a value is reported by its name. -/
theorem value_of_lacks {s : Assignment} {c : Char} (h : s.lacks c = true) :
    s.value c = .error (.unassignedVariable c) := by
  obtain ⟨hconstant, hget⟩ := lacks_eq_true_iff.mp h
  simp only [value, hconstant, hget]

/-- Every other signal has a value. -/
theorem exists_value {s : Assignment} {c : Char} (h : s.lacks c = false) :
    ∃ v, s.value c = .ok v := by
  unfold value
  cases hconstant : Signal.constant? c with
  | some v => exact ⟨v, rfl⟩
  | none =>
      cases hget : s.get? c with
      | some v => exact ⟨v, rfl⟩
      | none =>
          rw [lacks_eq_true_iff.mpr ⟨hconstant, hget⟩] at h
          cases h

/-- No signal lacks a value whose name is a constant or assigned. -/
theorem lacks_eq_false {s : Assignment} {c : Char}
    (h : Signal.constant? c = none → (s.get? c).isSome = true) : s.lacks c = false := by
  refine Bool.eq_false_iff.mpr fun hlacks => ?_
  obtain ⟨hconstant, hget⟩ := lacks_eq_true_iff.mp hlacks
  have hsome := h hconstant
  rw [hget] at hsome
  cases hsome

/-- A signal without a value is a variable that the assignment lacks. -/
theorem value_eq_error {s : Assignment} {c : Char} {err : Error}
    (h : s.value c = .error err) : s.lacks c = true ∧ err = .unassignedVariable c := by
  cases hlacks : s.lacks c with
  | false =>
      obtain ⟨v, hv⟩ := exists_value hlacks
      rw [hv] at h
      cases h
  | true =>
      rw [value_of_lacks hlacks] at h
      exact ⟨rfl, (Except.error.inj h).symm⟩

/-- An extension keeps the values of the signals. -/
theorem value_of_extends {s s' : Assignment} (h : s'.Extends s) {c : Char} {v : Bool}
    (hv : s.value c = .ok v) : s'.value c = .ok v := by
  unfold value at hv ⊢
  cases hconstant : Signal.constant? c with
  | some w => rwa [hconstant] at hv
  | none =>
      rw [hconstant] at hv
      cases hget : s.get? c with
      | none =>
          rw [hget] at hv
          cases hv
      | some w =>
          rw [hget] at hv
          rw [h c w hget]
          exact hv

/-- A value for one more name extends an assignment. -/
theorem extends_assign {s : Assignment} {c : Char} (h : s.get? c = none) (v : Bool) :
    (s.assign c v).Extends s := by
  intro name value hget
  have hne : name ≠ c := by
    rintro rfl
    exact nomatch h.symm.trans hget
  rwa [get?_assign_of_ne s v hne]

end Assignment

-- ── Formulas ───────────────────────────────────────────────────────

namespace Formula

open Assignment

/-- A formula has a value where each of its leaves has one. -/
theorem exists_evaluate {s : Assignment} {e : Formula}
    (h : ∀ x ∈ e.leaves, s.lacks x = false) : ∃ v, e.evaluate s = .ok v := by
  induction e with
  | leaf c => exact exists_value (h c (List.mem_singleton_self c))
  | not a ih =>
      obtain ⟨v, hv⟩ := ih h
      exact ⟨!v, by rw [evaluate_not, hv]; rfl⟩
  | binary op a b iha ihb =>
      obtain ⟨v, hv⟩ := iha fun x hx => h x (List.mem_append_left _ hx)
      obtain ⟨w, hw⟩ := ihb fun x hx => h x (List.mem_append_right _ hx)
      exact ⟨op.apply v w, by rw [evaluate_binary, hv, hw]; rfl⟩

/-- A formula has a value where none of its leaves lacks one. -/
theorem exists_evaluate_of_find? {s : Assignment} {e : Formula}
    (h : e.leaves.find? s.lacks = none) : ∃ v, e.evaluate s = .ok v :=
  exists_evaluate fun x hx => Bool.eq_false_iff.mpr (List.find?_eq_none.mp h x hx)

/-- **The leftmost missing leaf is reported**, whatever the other leaves
    would decide. -/
theorem evaluate_of_missing {s : Assignment} {e : Formula} {x : Char}
    (h : e.leaves.find? s.lacks = some x) :
    e.evaluate s = .error (.unassignedVariable x) := by
  induction e with
  | leaf c =>
      obtain ⟨hlacks, rfl⟩ : s.lacks c = true ∧ c = x := by
        simpa [leaves, List.find?_singleton] using h
      exact value_of_lacks hlacks
  | not a ih => rw [evaluate_not, ih h]; rfl
  | binary op a b iha ihb =>
      rw [leaves, List.find?_append] at h
      rw [evaluate_binary]
      cases hleft : a.leaves.find? s.lacks with
      | some y =>
          rw [hleft] at h
          obtain rfl : y = x := Option.some.inj h
          rw [iha hleft]
          rfl
      | none =>
          -- the left operand has a value, so the right one reports
          rw [hleft] at h
          obtain ⟨v, hv⟩ := exists_evaluate_of_find? hleft
          rw [hv, ihb h]
          rfl

/-- Every formula has one of the two outcomes. -/
theorem evaluate_cases (s : Assignment) (e : Formula) :
    (∃ v, e.evaluate s = .ok v) ∨
      ∃ x, e.leaves.find? s.lacks = some x ∧
        e.evaluate s = .error (.unassignedVariable x) := by
  cases h : e.leaves.find? s.lacks with
  | none => exact .inl (exists_evaluate_of_find? h)
  | some x => exact .inr ⟨x, rfl, evaluate_of_missing h⟩

/-- An extension keeps the values of the formulas. -/
theorem evaluate_of_extends {s s' : Assignment} (h : s'.Extends s) {e : Formula} {v : Bool}
    (hv : e.evaluate s = .ok v) : e.evaluate s' = .ok v := by
  induction e generalizing v with
  | leaf c => exact value_of_extends h hv
  | not a ih =>
      rw [evaluate_not] at hv ⊢
      obtain ⟨w, hw, rfl⟩ := exists_of_map_eq_ok hv
      rw [ih hw]
      rfl
  | binary op a b iha ihb =>
      rw [evaluate_binary] at hv ⊢
      obtain ⟨v₁, v₂, hv₁, hv₂, rfl⟩ := combine_eq_ok hv
      rw [iha hv₁, ihb hv₂]
      rfl

end Formula

-- ── Networks ───────────────────────────────────────────────────────

namespace Network

open Assignment

/-- A decision stands when the parts keep their outcomes. -/
theorem firstDecision_eq_ok_of_forall {decisive : Bool} {f g : Network → Except Error Bool}
    {parts : List Network} (h : ∀ n ∈ parts, ∀ w, f n = .ok w → g n = .ok w) {v : Bool}
    (hv : firstDecision decisive (parts.map f) = .ok v) :
    firstDecision decisive (parts.map g) = .ok v := by
  induction parts with
  | nil => exact hv
  | cons n rest ih =>
      rw [List.map_cons] at hv ⊢
      cases hn : f n with
      | error err =>
          rw [hn] at hv
          cases hv
      | ok w =>
          rw [hn, firstDecision] at hv
          rw [h n List.mem_cons_self w hn, firstDecision]
          split
          · rwa [if_pos ‹_›] at hv
          · rw [if_neg ‹_›] at hv
            exact ih (fun m hm => h m (List.mem_cons_of_mem n hm)) hv

/-- The failure of a connection is that of one of its parts. -/
theorem mem_of_firstDecision_eq_error {decisive : Bool} {outcomes : List (Except Error Bool)}
    {err : Error} (h : firstDecision decisive outcomes = .error err) :
    .error err ∈ outcomes := by
  induction outcomes with
  | nil => cases h
  | cons outcome rest ih =>
      cases outcome with
      | error e => exact (Except.error.inj h) ▸ List.mem_cons_self
      | ok v =>
          rw [firstDecision] at h
          split at h
          · cases h
          · exact List.mem_cons_of_mem _ (ih h)

/-- An extension keeps what the devices do. -/
theorem device_conducts_of_extends {s s' : Assignment} (h : s'.Extends s) {d : Device}
    {v : Bool} (hv : d.conducts s = .ok v) : d.conducts s' = .ok v := by
  rw [device_conducts_eq_map] at hv ⊢
  obtain ⟨level, hlevel, rfl⟩ := exists_of_map_eq_ok hv
  rw [value_of_extends h hlevel]
  rfl

/-- **An early decision stands.**  A network that has an outcome keeps it
    when more signals get values. -/
theorem conducts_of_extends {s s' : Assignment} (h : s'.Extends s) {n : Network} {v : Bool}
    (hv : n.conducts s = .ok v) : n.conducts s' = .ok v := by
  induction n generalizing v with
  | device d =>
      rw [conducts] at hv ⊢
      exact device_conducts_of_extends h hv
  | series parts ih =>
      cases hempty : parts.isEmpty with
      | true =>
          rw [conducts, hempty] at hv
          cases hv
      | false =>
          rw [conducts_series _ hempty] at hv ⊢
          exact firstDecision_eq_ok_of_forall (fun n hn w => ih n hn) hv
  | parallel parts ih =>
      cases hempty : parts.isEmpty with
      | true =>
          rw [conducts, hempty] at hv
          cases hv
      | false =>
          rw [conducts_parallel _ hempty] at hv ⊢
          exact firstDecision_eq_ok_of_forall (fun n hn w => ih n hn) hv

-- ── Where a network fails ──────────────────────────────────────────

/-- A device fails where its gate has no value. -/
theorem device_conducts_eq_error {s : Assignment} {d : Device} {err : Error}
    (h : d.conducts s = .error err) :
    s.lacks d.gate = true ∧ err = .unassignedVariable d.gate := by
  rw [device_conducts_eq_map] at h
  exact value_eq_error (eq_error_of_map h)

/-- The failure of a connection is that of a device, if that of each part
    is. -/
theorem exists_device_of_firstDecision {s : Assignment} {decisive : Bool}
    {parts : List Network} {err : Error}
    (ih : ∀ n ∈ parts, n.conducts s = .error err → ∃ d ∈ n.devices, d.conducts s = .error err)
    (h : firstDecision decisive (parts.map (conducts s)) = .error err) :
    ∃ d ∈ parts.flatMap devices, d.conducts s = .error err := by
  obtain ⟨n, hn, herr⟩ := List.mem_map.mp (mem_of_firstDecision_eq_error h)
  obtain ⟨d, hd, hfails⟩ := ih n hn herr
  exact ⟨d, List.mem_flatMap.mpr ⟨n, hn, hd⟩, hfails⟩

/-- **A well-formed network fails only at a device.** -/
theorem exists_device_of_conducts_eq_error {s : Assignment} {n : Network} {err : Error}
    (hn : n.isWellFormed = true) (h : n.conducts s = .error err) :
    ∃ d ∈ n.devices, d.conducts s = .error err := by
  revert h
  refine isWellFormed_induction
    (P := fun n => n.conducts s = .error err → ∃ d ∈ n.devices, d.conducts s = .error err)
    (fun d h => ?_) (fun parts hne _ ih h => ?_) (fun parts hne _ ih h => ?_) hn
  · rw [conducts] at h
    exact ⟨d, by simp, h⟩
  · rw [conducts_series s (List.isEmpty_eq_false_iff.mpr hne)] at h
    rw [devices_series]
    exact exists_device_of_firstDecision ih h
  · rw [conducts_parallel s (List.isEmpty_eq_false_iff.mpr hne)] at h
    rw [devices_parallel]
    exact exists_device_of_firstDecision ih h

end Network

-- ── Circuits ───────────────────────────────────────────────────────

/-- An extension keeps the outputs of the circuits. -/
theorem Circuit.output_of_extends {c : Circuit} {s s' : Assignment} (h : s'.Extends s)
    {v : Bool} (hv : c.output s = .ok v) : c.output s' = .ok v := by
  unfold output at hv ⊢
  cases hdown : c.pulldown.conducts s with
  | error err =>
      rw [hdown] at hv
      cases hv
  | ok down =>
      cases hup : c.pullup.conducts s with
      | error err =>
          rw [hdown, hup] at hv
          cases hv
      | ok up =>
          rw [hdown, hup] at hv
          rw [Network.conducts_of_extends h hdown, Network.conducts_of_extends h hup]
          exact hv

end SwitchLogic
