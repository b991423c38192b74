import SwitchLogic.Error

/-! # Outcomes

    Evaluating, reading and simulating give a value or the first failure
    that they meet.  A step that follows another succeeds only where
    both do, and an outcome that combines two others reports the failure
    of the left one first. -/

namespace SwitchLogic

-- ── Steps in sequence ──────────────────────────────────────────────

/-- A step after another succeeds only after the first succeeded. -/
theorem exists_of_bind_eq_ok {α β : Type} {x : Except Error α} {f : α → Except Error β}
    {b : β} (h : x.bind f = .ok b) : ∃ a, x = .ok a ∧ f a = .ok b := by
  cases x with
  | error e => cases h
  | ok a => exact ⟨a, rfl, h⟩

/-- A mapped outcome succeeds with the image of a success. -/
theorem exists_of_map_eq_ok {α β : Type} {x : Except Error α} {f : α → β} {b : β}
    (h : x.map f = .ok b) : ∃ a, x = .ok a ∧ f a = b := by
  cases x with
  | error e => cases h
  | ok a => exact ⟨a, rfl, Except.ok.inj h⟩

/-- A mapped outcome fails as the outcome does. -/
theorem eq_error_of_map {α β : Type} {x : Except Error α} {f : α → β} {err : Error}
    (h : x.map f = .error err) : x = .error err := by
  cases x with
  | error e => rw [Except.error.inj h]
  | ok a => cases h

/-- A complement has the values that the complemented outcome has not. -/
theorem map_not_eq_ok_iff {x : Except Error Bool} {v : Bool} :
    x.map (!·) = .ok v ↔ x = .ok (!v) := by
  cases x with
  | error e => simp [Except.map]
  | ok w => cases v <;> simp [Except.map]

-- ── Two operands ───────────────────────────────────────────────────

/-- The outcome of a function of two operands; of two failures the left
    one counts. -/
def combine (f : Bool → Bool → Bool) :
    Except Error Bool → Except Error Bool → Except Error Bool
  | .error e, _ => .error e
  | .ok _, .error e => .error e
  | .ok v, .ok w => .ok (f v w)

/-- A function behind a combination goes into it. -/
theorem map_combine (g : Bool → Bool) (f : Bool → Bool → Bool)
    (x y : Except Error Bool) :
    (combine f x y).map g = combine (fun v w => g (f v w)) x y := by
  cases x with
  | error e => rfl
  | ok v => cases y <;> rfl

/-- Functions in front of a combination go into it. -/
theorem combine_map (f : Bool → Bool → Bool) (g h : Bool → Bool)
    (x y : Except Error Bool) :
    combine f (x.map g) (y.map h) = combine (fun v w => f (g v) (h w)) x y := by
  cases x with
  | error e => rfl
  | ok v => cases y <;> rfl

/-- Combining the same operands twice evaluates nothing new. -/
theorem combine_combine (f g h : Bool → Bool → Bool) (x y : Except Error Bool) :
    combine f (combine g x y) (combine h x y)
      = combine (fun v w => f (g v w) (h v w)) x y := by
  cases x with
  | error e => rfl
  | ok v => cases y <;> rfl

/-- Only the values of the combining function matter. -/
theorem combine_congr {f g : Bool → Bool → Bool} (h : ∀ v w, f v w = g v w)
    (x y : Except Error Bool) : combine f x y = combine g x y := by
  rw [show f = g from funext fun v => funext (h v)]

/-- A combination succeeds where both outcomes do. -/
theorem combine_eq_ok {f : Bool → Bool → Bool} {x y : Except Error Bool} {u : Bool}
    (h : combine f x y = .ok u) :
    ∃ v w, x = .ok v ∧ y = .ok w ∧ u = f v w := by
  cases x with
  | error e => cases h
  | ok v =>
      cases y with
      | error e => cases h
      | ok w => exact ⟨v, w, rfl, rfl, (Except.ok.inj h).symm⟩

end SwitchLogic
