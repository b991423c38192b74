import Mathlib.Data.Fintype.Card
import Mathlib.Data.Fintype.Prod
import SwitchLogic.Random

/-! # Rejected words

    The generator draws a number by rejecting words up to the first that
    is accepted.  A draw gives up after as many words as there are states
    of the generator, and this bound is never felt.  Each word is
    determined by the state before it, so a state that came up twice
    would be followed by the same words again, and by the first accepted
    word before its time.  Up to that word all states are therefore
    different, and there are no more of them than states. -/

namespace SwitchLogic.Xoshiro

/-- The state behind a number of words. -/
def after (g : Xoshiro) (k : Nat) : Xoshiro := Nat.iterate (fun h => h.next.2) k g

/-- Whether word `k` is the first that is accepted for a number below `n`. -/
structure FirstAccepted (n : Nat) (g : Xoshiro) (k : Nat) : Prop where
  accepted : accepts n (g.after k).next.1 = true
  rejected : ∀ j, j < k → accepts n (g.after j).next.1 = false

variable {n k : Nat} {g : Xoshiro}

theorem after_succ (g : Xoshiro) (k : Nat) : g.after (k + 1) = g.next.2.after k :=
  Function.iterate_succ_apply _ k g

theorem after_add (g : Xoshiro) (j k : Nat) : g.after (k + j) = (g.after j).after k :=
  Function.iterate_add_apply _ k j g

-- ── The draw reaches the first accepted word ───────────────────────

/-- Behind a rejected word, the first accepted one is a word nearer. -/
theorem FirstAccepted.next (h : FirstAccepted n g (k + 1)) : FirstAccepted n g.next.2 k := by
  constructor
  case accepted =>
    rw [← after_succ]
    exact h.accepted
  case rejected =>
    intro j hj
    rw [← after_succ]
    exact h.rejected (j + 1) (Nat.succ_lt_succ hj)

/-- With enough words to reject, a draw ends at the first accepted one. -/
theorem FirstAccepted.belowWithin_eq (h : FirstAccepted n g k) (pos : 0 < n) {rejections : Nat}
    (hk : k ≤ rejections) :
    belowWithin n pos rejections g = (high (g.after k).next.1 n pos, (g.after k).next.2) := by
  induction rejections generalizing g k with
  | zero =>
      obtain rfl : k = 0 := Nat.le_zero.mp hk
      rfl
  | succ rejections ih =>
      rw [belowWithin]
      cases k with
      | zero => exact if_pos h.accepted
      | succ k =>
          have hfirst : accepts n g.next.1 = false := h.rejected 0 (Nat.succ_pos k)
          rw [hfirst, after_succ]
          exact ih h.next (Nat.le_of_succ_le_succ hk)

-- ── The states up to it are different ──────────────────────────────

/-- No state comes up twice before the first accepted word. -/
theorem FirstAccepted.after_ne (h : FirstAccepted n g k) {i j : Nat} (hij : i < j)
    (hj : j ≤ k) : g.after i ≠ g.after j := by
  intro heq
  -- the words from the two states on are the same, so the accepted one comes up earlier too
  have hagain : g.after (k - j + i) = g.after k := by
    rw [after_add, heq, ← after_add, Nat.sub_add_cancel hj]
  have hearlier : accepts n (g.after (k - j + i)).next.1 = false :=
    h.rejected _ (by omega)
  rw [hagain, h.accepted] at hearlier
  cases hearlier

/-- The four words of a state. -/
def words (g : Xoshiro) :
    Fin UInt64.size × Fin UInt64.size × Fin UInt64.size × Fin UInt64.size :=
  (g.s0.toFin, g.s1.toFin, g.s2.toFin, g.s3.toFin)

/-- A state is its four words. -/
theorem words_injective : Function.Injective words := by
  rintro ⟨a, b, c, d⟩ ⟨a', b', c', d'⟩ h
  simp only [words, Prod.mk.injEq, UInt64.toFin_inj] at h
  obtain ⟨rfl, rfl, rfl, rfl⟩ := h
  rfl

/-- **Fewer words are rejected than there are states.** -/
theorem FirstAccepted.lt_stateCount (h : FirstAccepted n g k) : k < stateCount := by
  have hinjective : Function.Injective fun i : Fin (k + 1) => (g.after i).words := by
    intro i j heq
    have hstates : g.after i = g.after j := words_injective heq
    rcases Nat.lt_trichotomy i j with hlt | hij | hgt
    · exact absurd hstates (h.after_ne hlt (Nat.le_of_lt_succ j.isLt))
    · exact Fin.ext hij
    · exact absurd hstates.symm (h.after_ne hgt (Nat.le_of_lt_succ i.isLt))
  calc k + 1 = Fintype.card (Fin (k + 1)) := (Fintype.card_fin _).symm
    _ ≤ Fintype.card (Fin UInt64.size × Fin UInt64.size × Fin UInt64.size × Fin UInt64.size) :=
        Fintype.card_le_of_injective _ hinjective
    _ = stateCount := by simp only [Fintype.card_prod, Fintype.card_fin, stateCount]

/-- **A draw is that of unbounded rejection.**  Where a word is accepted
    at all, the number comes from the first such word, and the next draw
    starts behind it. -/
theorem below_of_firstAccepted (h : FirstAccepted n g k) (pos : 0 < n) :
    source.below n pos g = (high (g.after k).next.1 n pos, (g.after k).next.2) :=
  h.belowWithin_eq pos (Nat.le_of_lt h.lt_stateCount)

end SwitchLogic.Xoshiro
