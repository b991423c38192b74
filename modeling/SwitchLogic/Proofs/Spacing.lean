import Mathlib.Data.List.Chain
import SwitchLogic.Proofs.Spelled

/-! # Spaced tokens are cut apart again

    Tokens are written down one behind the other, with white space in
    front of each of them and behind the last.  Cutting the text gives
    them back, each with the number of characters in front of it.

    White space is needed only between two tokens of letters and digits.
    Without it `n`, `o` and `t` would make a keyword, and `x` in front of
    `nor` another one.  A parenthesis or a `!` ends every keyword, so
    next to these no space is needed. -/

namespace SwitchLogic.Token

variable {kind : TokenKind} {text rest s : List Char} {position : Nat} {c : Char}

/-- A token to be written down, behind some white space. -/
structure Piece where
  gap : List Char
  kind : TokenKind
  text : List Char
  isBlank_gap : ∀ c ∈ gap, Text.isBlank c = true
  writes : Writes kind text

/-- The text of some pieces, one behind the other. -/
def written (pieces : List Piece) : List Char := pieces.flatMap fun p => p.gap ++ p.text

namespace Piece

/-- Whether a token consists of letters and digits. -/
def isWord (p : Piece) : Bool := p.text.all Signal.isWritable

/-- Two pieces that may stand one behind the other: between two words
    lies some white space. -/
def Apart (p q : Piece) : Prop := p.isWord = true → q.isWord = true → q.gap ≠ []

instance : DecidableRel Apart := fun p q =>
  inferInstanceAs (Decidable (p.isWord = true → q.isWord = true → q.gap ≠ []))

/-- The token of a piece, when a text stands in front of it. -/
def tokenBehind (before : List Char) (p : Piece) : Token :=
  ⟨p.kind, p.text, (before ++ p.gap).length⟩

end Piece

theorem written_cons (p : Piece) (pieces : List Piece) :
    written (p :: pieces) = p.gap ++ (p.text ++ written pieces) := by
  rw [written, List.flatMap_cons, List.append_assoc]
  rfl

-- ── White space ────────────────────────────────────────────────────

/-- White space in front of a text only moves the positions. -/
theorem listFrom_append_of_blank {gap : List Char} (h : ∀ c ∈ gap, Text.isBlank c = true) :
    listFrom position (gap ++ rest) = listFrom (position + gap.length) rest := by
  induction gap generalizing position with
  | nil => rfl
  | cons c gap ih =>
      obtain ⟨hc, hgap⟩ := List.forall_mem_cons.mp h
      rw [List.cons_append, listFrom_blank hc, ih hgap, List.length_cons, Nat.add_assoc,
        Nat.add_comm 1]

/-- White space is no letter. -/
theorem isLetter_of_isBlank (h : Text.isBlank c = true) : Signal.isLetter c = false := by
  refine Bool.eq_false_iff.mpr fun hletter => ?_
  have hwritable : Signal.isWritable c = true := by rw [Signal.isWritable, hletter]; rfl
  rw [isBlank_of_isWritable hwritable] at h
  cases h

/-- White space keeps the letters on both sides apart. -/
theorem breaks_of_blank (h : ∀ c ∈ s, Text.isBlank c = true) : Breaks s :=
  fun c hc => isLetter_of_isBlank (h c (List.mem_of_mem_head? hc))

-- ── What stands behind an operand ──────────────────────────────────

/-- A token that is no word starts with no letter. -/
theorem breaks_of_writes (h : Writes kind text) (hword : text.all Signal.isWritable = false) :
    Breaks (text ++ rest) := by
  cases h with
  | opening => exact breaks_cons rfl rest
  | closing => exact breaks_cons rfl rest
  | bang => exact breaks_cons rfl rest
  | word => cases hword
  | connective op =>
      obtain ⟨f, inverting⟩ := op
      cases f <;> cases inverting <;> cases hword
  | operand hc => simp [hc] at hword

/-- Behind a word no letter follows that could go on with it. -/
theorem breaks_written {p : Piece} {pieces : List Piece} {trail : List Char}
    (hp : p.isWord = true) (happart : (p :: pieces).IsChain Piece.Apart)
    (htrail : ∀ c ∈ trail, Text.isBlank c = true) : Breaks (written pieces ++ trail) := by
  cases pieces with
  | nil => exact breaks_of_blank htrail
  | cons q pieces =>
      have hgap := (List.isChain_cons_cons.mp happart).1 hp
      rw [written_cons, List.append_assoc, List.append_assoc]
      cases hq : q.isWord with
      | true =>
          cases hempty : q.gap with
          | nil => exact absurd hempty (hgap hq)
          | cons d ds =>
              have hblank := q.isBlank_gap d (hempty ▸ List.mem_cons_self)
              exact breaks_cons (isLetter_of_isBlank hblank) _
      | false => exact (breaks_of_blank q.isBlank_gap).append (breaks_of_writes q.writes hq)

-- ── Cutting what was written ───────────────────────────────────────

/-- **Spaced tokens are cut apart again**, behind any text of which the
    position is known. -/
theorem listFrom_written {pieces : List Piece} {trail : List Char} (before : List Char)
    (happart : pieces.IsChain Piece.Apart) (htrail : ∀ c ∈ trail, Text.isBlank c = true) :
    listFrom before.length (written pieces ++ trail)
      = .ok (pieces.mapIdx fun i p => p.tokenBehind (before ++ written (pieces.take i))) := by
  induction pieces generalizing before with
  | nil =>
      have htokens : listFrom before.length (trail ++ []) = .ok [] := by
        rw [listFrom_append_of_blank htrail, listFrom]
      rwa [List.append_nil] at htokens
  | cons p pieces ih =>
      have hbreaks : p.kind = .operand → Breaks (written pieces ++ trail) := by
        intro hkind
        obtain ⟨c, htext, hc⟩ := text_of_writes_operand (hkind ▸ p.writes)
        exact breaks_written (by simp [Piece.isWord, htext, hc]) happart htrail
      have hrest := ih (before ++ p.gap ++ p.text) happart.tail
      rw [List.length_append, List.length_append] at hrest
      rw [written_cons, List.append_assoc, List.append_assoc,
        listFrom_append_of_blank p.isBlank_gap, listFrom_of_writes p.writes hbreaks, hrest,
        List.mapIdx_cons]
      simp [Except.map, Piece.tokenBehind, written]

/-- **Cutting undoes writing.**  Tokens that are written down in front of
    some white space, with white space in between wherever two words
    meet, are cut out again: the same tokens in the same order, each at
    the place where its text was written. -/
theorem ofText_written (pieces : List Piece) (trail : List Char)
    (happart : pieces.IsChain Piece.Apart) (htrail : ∀ c ∈ trail, Text.isBlank c = true) :
    ofText (written pieces ++ trail)
      = .ok (pieces.mapIdx fun i p => p.tokenBehind (written (pieces.take i))) :=
  listFrom_written [] happart htrail

/-- Three letters of a keyword stay apart, and so do the letter and the
    keyword behind the sign; neither the sign nor the parenthesis needs
    a space. -/
theorem ofText_written_letters :
    let pieces : List Piece :=
      [⟨[], .operand, ['n'], by simp, .operand rfl⟩,
       ⟨[' '], .operand, ['o'], List.forall_mem_singleton.mpr rfl, .operand rfl⟩,
       ⟨['\t'], .operand, ['t'], List.forall_mem_singleton.mpr rfl, .operand rfl⟩,
       ⟨[], .complement, ['!'], by simp, .bang⟩,
       ⟨[], .operand, ['x'], by simp, .operand rfl⟩,
       ⟨[' '], .connective .nor, ['n', 'o', 'r'], List.forall_mem_singleton.mpr rfl,
         .connective .nor⟩,
       ⟨[], .opening, ['('], by simp, .opening⟩]
    pieces.IsChain Piece.Apart ∧ (∀ c ∈ ['\n'], Text.isBlank c = true) ∧
      written pieces ++ ['\n'] = "n o\tt!x nor(\n".toList ∧
      ofText (written pieces ++ ['\n'])
        = .ok [⟨.operand, ['n'], 0⟩, ⟨.operand, ['o'], 2⟩, ⟨.operand, ['t'], 4⟩,
            ⟨.complement, ['!'], 5⟩, ⟨.operand, ['x'], 6⟩,
            ⟨.connective .nor, ['n', 'o', 'r'], 8⟩, ⟨.opening, ['('], 11⟩] := by
  intro pieces
  have happart : pieces.IsChain Piece.Apart := by decide
  have htrail : ∀ c ∈ ['\n'], Text.isBlank c = true := List.forall_mem_singleton.mpr rfl
  exact ⟨happart, htrail, by decide, ofText_written pieces ['\n'] happart htrail⟩

end SwitchLogic.Token
