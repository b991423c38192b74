import SwitchLogic.Formula.Generation

/-! # What is drawn

    The state of the random source goes from one draw to the next, so
    which formula is drawn depends on every draw before it.  What it is
    made of does not: whatever the source answers, a leaf is a constant
    or one of the first letters, and every other node stands on formulas
    that were drawn with one level less.

    So what leaves have, and what complements and connectives pass on
    from one level to the next, every drawn formula has.  Nothing but the
    ranges of the draws is used, and these are in the types of the
    source. -/

namespace SwitchLogic.Formula

section

variable {σ : Type} (source : RandomSource σ) {letters : Nat} (letters_pos : 0 < letters)

/-- A drawn leaf is a constant or one of the first letters. -/
theorem drawLeaf_cases (state : σ) :
    (∃ v, (drawLeaf source letters letters_pos state).1 = .constant v) ∨
      ∃ i, i < letters ∧ (drawLeaf source letters letters_pos state).1 = .leaf (letterAt i) := by
  simp only [drawLeaf]
  split
  · exact .inl ⟨_, rfl⟩
  · exact .inr ⟨_, Fin.isLt _, rfl⟩

/-- **Induction on drawn formulas**, for every source and from every
    state: `P` speaks of a formula drawn with a number of levels. -/
theorem draw_induction {P : Nat → Formula → Prop}
    (constant : ∀ depth v, P depth (.constant v))
    (letter : ∀ depth i, i < letters → P depth (.leaf (letterAt i)))
    (complement : ∀ depth a, P (depth + 1) a → P (depth + 2) (.not a))
    (connective : ∀ depth op a b, P (depth + 1) a → P (depth + 1) b →
      P (depth + 2) (.binary op a b))
    (depth : Nat) (state : σ) : P depth (draw source letters letters_pos depth state).1 := by
  have hleaf : ∀ depth state, P depth (drawLeaf source letters letters_pos state).1 := by
    intro depth state
    rcases drawLeaf_cases source letters_pos state with ⟨v, hv⟩ | ⟨i, hi, hletter⟩
    · rw [hv]
      exact constant depth v
    · rw [hletter]
      exact letter depth i hi
  induction depth generalizing state with
  | zero => exact hleaf 0 state
  | succ depth ih =>
      cases depth with
      | zero => exact hleaf 1 state
      | succ depth =>
          -- the state moves on from draw to draw, but the hypothesis holds for every state
          simp only [draw]
          split
          · exact hleaf (depth + 2) _
          · split
            · exact connective depth _ _ _ (ih _) (ih _)
            · exact complement depth _ (ih _)

end

-- ── Leaves ─────────────────────────────────────────────────────────

/-- The letters are drawn from the first ones. -/
theorem letterAt_mem_take {letters i : Nat} (hi : i < letters) (hle : letters ≤ 26) :
    letterAt i ∈ Signal.letters.take letters := by
  have hall : ∀ i, i < 26 → Signal.letters[i]? = some (letterAt i) := by decide
  refine List.mem_of_getElem? (i := i) ?_
  rw [List.getElem?_take_of_lt hi]
  exact hall i (Nat.lt_of_lt_of_le hi hle)

/-- **Leaves that are drawn** are constants and letters among the first. -/
theorem mem_leaves_draw {σ : Type} (source : RandomSource σ) {letters : Nat}
    (letters_pos : 0 < letters) (letters_le : letters ≤ 26) (depth : Nat) (state : σ) :
    ∀ c ∈ (draw source letters letters_pos depth state).1.leaves,
      c ∈ '0' :: '1' :: Signal.letters.take letters := by
  refine draw_induction source letters_pos
    (P := fun _ e => ∀ c ∈ e.leaves, c ∈ '0' :: '1' :: Signal.letters.take letters)
    (fun _ v c hc => ?_) (fun _ i hi c hc => ?_) (fun _ a ha => ha)
    (fun _ op a b ha hb c hc => ?_) depth state
  · obtain rfl : c = Signal.ofBool v := List.mem_singleton.mp hc
    cases v <;> simp [Signal.ofBool]
  · obtain rfl : c = letterAt i := List.mem_singleton.mp hc
    exact List.mem_cons_of_mem _ (List.mem_cons_of_mem _ (letterAt_mem_take hi letters_le))
  · rcases List.mem_append.mp hc with hc | hc
    · exact ha c hc
    · exact hb c hc

/-- Constants and the first letters can be written. -/
theorem isWritable_of_mem_take {letters : Nat} {c : Char}
    (h : c ∈ '0' :: '1' :: Signal.letters.take letters) : Signal.isWritable c = true := by
  have hsub : '0' :: '1' :: Signal.letters.take letters ⊆ '0' :: '1' :: Signal.letters :=
    List.cons_subset_cons _ (List.cons_subset_cons _ (List.take_subset _ _))
  exact Signal.isWritable_iff_mem.mpr (hsub h)

/-- **Samples are written formulas**: their leaves are letters and
    constants. -/
theorem isWritable_of_mem_sample {σ : Type} (source : RandomSource σ) (size : SampleSize)
    (seed : UInt64) : ∀ c ∈ (sample source size seed).leaves, Signal.isWritable c = true := by
  intro c hc
  exact isWritable_of_mem_take
    (mem_leaves_draw source size.letters_pos size.letters_le size.depth _ c hc)

end SwitchLogic.Formula
