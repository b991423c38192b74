import Mathlib.Algebra.Group.Nat.Defs
import SwitchLogic.Proofs.RoundTrip
import SwitchLogic.Proofs.Samples

/-! # Bounds of random formulas

    A drawn formula has no more levels than were asked for.  The rest
    follows from its levels and its leaves: the nodes are at most those
    of a tree with every level full, and the written form is read back,
    since it opens fewer levels than the formula has.

    All this holds for every source, from every state, and so of the
    samples that seeds determine. -/

namespace SwitchLogic.Formula

-- ── Levels and nodes ───────────────────────────────────────────────

/-- **Few levels, few nodes.**  Each level has at most twice the nodes of
    the one above it. -/
theorem size_lt_two_pow_depth (e : Formula) : e.size < 2 ^ e.depth := by
  induction e with
  | leaf c => exact Nat.one_lt_two
  | not a ih =>
      show 1 + a.size < 2 ^ (1 + a.depth)
      rw [Nat.add_comm 1 a.depth, Nat.pow_succ]
      omega
  | binary op a b iha ihb =>
      -- both operands are within the power of the greater depth
      have ha : 2 ^ a.depth ≤ 2 ^ max a.depth b.depth :=
        Nat.pow_le_pow_right Nat.two_pos (Nat.le_max_left _ _)
      have hb : 2 ^ b.depth ≤ 2 ^ max a.depth b.depth :=
        Nat.pow_le_pow_right Nat.two_pos (Nat.le_max_right _ _)
      show 1 + a.size + b.size < 2 ^ (1 + max a.depth b.depth)
      rw [Nat.add_comm 1 (max _ _), Nat.pow_succ]
      omega

/-- **No level too many.** -/
theorem depth_draw_le {σ : Type} (source : RandomSource σ) {letters : Nat}
    (letters_pos : 0 < letters) {depth : Nat} (hpos : 0 < depth) (state : σ) :
    (draw source letters letters_pos depth state).1.depth ≤ depth := by
  refine draw_induction source letters_pos (P := fun n e => 0 < n → e.depth ≤ n)
    (fun _ _ hn => hn) (fun _ _ _ hn => hn) (fun n a ha _ => ?_) (fun n op a b ha hb _ => ?_)
    depth state hpos
  · have hoperand := ha n.succ_pos
    show 1 + a.depth ≤ n + 2
    omega
  · have hleft := ha n.succ_pos
    have hright := hb n.succ_pos
    show 1 + max a.depth b.depth ≤ n + 2
    omega

-- ── Samples ────────────────────────────────────────────────────────

/-- What a formula of a given size keeps to. -/
structure IsSampleOf (e : Formula) (size : SampleSize) : Prop where
  depth : e.depth ≤ size.depth
  nodes : e.size ≤ 2 ^ size.depth - 1
  /-- The leaves are constants and letters among the first. -/
  leaves : ∀ c ∈ e.leaves, c ∈ '0' :: '1' :: Signal.letters.take size.letters
  /-- The written form is read back with one open level less than the
      formula may have levels: only a limit on the length can refuse it. -/
  readBack : ∀ limits, size.depth - 1 ≤ limits.maxDepth → Expression.read limits e.text
    = if e.text.length > limits.maxLength then
        .error (.inputTooLong e.text.length limits.maxLength)
      else .ok ⟨e.text, e.text, e.letters, e, limits⟩

/-- Levels and leaves of a formula decide whether it keeps to a size. -/
theorem isSampleOf_of_depth_of_leaves {e : Formula} {size : SampleSize}
    (hdepth : e.depth ≤ size.depth)
    (hleaves : ∀ c ∈ e.leaves, c ∈ '0' :: '1' :: Signal.letters.take size.letters) :
    e.IsSampleOf size := by
  constructor
  case depth => exact hdepth
  case nodes =>
    have hsize : e.size < 2 ^ size.depth :=
      Nat.lt_of_lt_of_le e.size_lt_two_pow_depth (Nat.pow_le_pow_right Nat.two_pos hdepth)
    exact Nat.le_pred_of_lt hsize
  case leaves => exact hleaves
  case readBack =>
    intro limits hlimit
    have hnest := e.nest_lt_depth
    have hwithin : e.nest ≤ limits.maxDepth := by omega
    rw [read_text fun c hc => isWritable_of_mem_take (hleaves c hc), if_pos hwithin]

/-- **Bounds of random formulas.**  Whatever the source answers, a formula
    that is drawn keeps to the size that was asked for, and so does the
    sample of every seed. -/
theorem isSampleOf_draw (size : SampleSize) :
    (∀ {σ : Type} (source : RandomSource σ) (state : σ),
      (draw source size.letters size.letters_pos size.depth state).1.IsSampleOf size) ∧
    ∀ {σ : Type} (source : RandomSource σ) seed, (sample source size seed).IsSampleOf size := by
  have hdraw : ∀ {σ : Type} (source : RandomSource σ) (state : σ),
      (draw source size.letters size.letters_pos size.depth state).1.IsSampleOf size := by
    intro σ source state
    have hdepth := depth_draw_le source size.letters_pos size.depth_pos state
    have hleaves := mem_leaves_draw source size.letters_pos size.letters_le size.depth state
    exact isSampleOf_of_depth_of_leaves hdepth hleaves
  exact ⟨hdraw, fun source seed => hdraw source (source.ofSeed seed)⟩

/-- With three letters and three levels, seed 6 gives `!(a xor a)`.  It has
    all three levels, and its written form opens two of them at once. -/
theorem isSampleOf_draw_xor :
    let size : SampleSize := ⟨3, 3, by decide, by decide, by decide⟩
    let e := sample Xoshiro.source size 6
    e = .not (xor (.leaf 'a') (.leaf 'a')) ∧
      Expression.read { Limits.standard with maxDepth := 2 } e.text
        = .ok ⟨e.text, e.text, e.letters, e, { Limits.standard with maxDepth := 2 }⟩ ∧
      Expression.read { Limits.standard with maxDepth := 1 } e.text
        = .error (.nestingTooDeep 1) := by
  intro size e
  have he : e = .not (xor (.leaf 'a') (.leaf 'a')) := by decide +kernel
  have htext : e.text.length ≤ Limits.standard.maxLength := by
    rw [he]
    decide
  have hnest : ¬ e.nest ≤ 1 := by
    rw [he]
    decide
  have hrefused := read_text (isWritable_of_mem_sample Xoshiro.source size 6)
    { Limits.standard with maxDepth := 1 }
  rw [if_neg (Nat.not_lt_of_le htext), if_neg hnest] at hrefused
  have hread := ((isSampleOf_draw size).2 Xoshiro.source 6).readBack
    { Limits.standard with maxDepth := 2 } (by decide)
  rw [if_neg (Nat.not_lt_of_le htext)] at hread
  exact ⟨he, hread, hrefused⟩

end SwitchLogic.Formula
