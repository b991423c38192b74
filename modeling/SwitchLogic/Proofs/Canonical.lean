import SwitchLogic.Symbols
import SwitchLogic.Lexing

/-! # Texts in canonical form

    A text is its own canonical form when every character is kept by the
    respelling and by the lowercasing, and no white space stands at its
    ends.  The capital sigma is the one character whose lowercase form
    depends on its place, and it is never kept; so where all characters
    are kept, lowercasing goes character by character. -/

namespace SwitchLogic

-- ── Nothing to trim ────────────────────────────────────────────────

/-- A text that begins and ends with a character other than white
    space. -/
def Text.Solid (s : List Char) : Prop :=
  (∃ c ∈ s.head?, isBlank c = false) ∧ ∃ c ∈ s.getLast?, isBlank c = false

namespace Text

/-- A character that is not white space is solid. -/
theorem Solid.single {c : Char} (h : isBlank c = false) : Solid [c] :=
  ⟨⟨c, rfl, h⟩, c, rfl, h⟩

/-- What stands between two solid texts does not matter. -/
theorem Solid.append {s t : List Char} (hs : Solid s) (ht : Solid t) (between : List Char) :
    Solid (s ++ (between ++ t)) := by
  obtain ⟨⟨c, hc, hblank⟩, -⟩ := hs
  obtain ⟨-, d, hd, hblank'⟩ := ht
  refine ⟨⟨c, ?_, hblank⟩, d, ?_, hblank'⟩
  · rw [Option.mem_def] at hc ⊢
    rw [List.head?_append, hc]
    rfl
  · rw [Option.mem_def] at hd ⊢
    rw [List.getLast?_append, List.getLast?_append, hd]
    rfl

/-- A solid text does not start with white space. -/
theorem Solid.isBlank_head {s : List Char} (h : Solid s) : ∀ c ∈ s.head?, isBlank c = false := by
  obtain ⟨⟨d, hd, hblank⟩, -⟩ := h
  intro c hc
  obtain rfl : c = d := Option.some.inj (hc.symm.trans hd)
  exact hblank

/-- A solid text does not end with white space. -/
theorem Solid.isBlank_getLast {s : List Char} (h : Solid s) :
    ∀ c ∈ s.getLast?, isBlank c = false := by
  obtain ⟨-, d, hd, hblank⟩ := h
  intro c hc
  obtain rfl : c = d := Option.some.inj (hc.symm.trans hd)
  exact hblank

/-- Nothing is trimmed off where no white space starts the text. -/
theorem trimStart_of_head {s : List Char} (h : ∀ c ∈ s.head?, isBlank c = false) :
    trimStart s = s := by
  cases s with
  | nil => rfl
  | cons d s => rw [trimStart, List.dropWhile_cons_of_neg (by simp [h d rfl])]

/-- Nothing is trimmed off where there is no white space at either end. -/
theorem trim_of_ends {s : List Char} (hhead : ∀ c ∈ s.head?, isBlank c = false)
    (hlast : ∀ c ∈ s.getLast?, isBlank c = false) : trim s = s := by
  have hreverse : trimStart s.reverse = s.reverse :=
    trimStart_of_head (by rw [List.head?_reverse]; exact hlast)
  rw [trim, trimStart_of_head hhead, trimEnd, hreverse, List.reverse_reverse]

-- ── Nothing to lower ───────────────────────────────────────────────

/-- The capital sigma is lowered wherever it stands. -/
theorem ne_sigma_of_lowerChar {c : Char} (h : lowerChar c = [c]) : c ≠ 'Σ' := by
  rintro rfl
  exact absurd h (by decide)

/-- A text of characters that are their own lowercase forms is lowercase,
    also behind the start of a word. -/
theorem lowercaseAfter_of_fixed {s : List Char} (h : ∀ c ∈ s, lowerChar c = [c])
    (inWord : Bool) : lowercaseAfter inWord s = s := by
  induction s generalizing inWord with
  | nil => rfl
  | cons c s ih =>
      have hlower := h c List.mem_cons_self
      have hsigma := ne_sigma_of_lowerChar hlower
      have hrest : ∀ d ∈ s, lowerChar d = [d] := fun d hd => h d (List.mem_cons_of_mem c hd)
      simp only [lowercaseAfter, hsigma, decide_false, Bool.false_and, Bool.false_eq_true,
        if_false, hlower, ih hrest, List.singleton_append]

end Text

namespace Spelling

-- ── Nothing to respell ─────────────────────────────────────────────

/-- A text without signs to replace keeps its spelling. -/
theorem flatMap_spell_of_fixed {s : List Char} (h : ∀ c ∈ s, spell c = [c]) :
    s.flatMap spell = s := by
  induction s with
  | nil => rfl
  | cons c s ih =>
      have hrest : ∀ d ∈ s, spell d = [d] := fun d hd => h d (List.mem_cons_of_mem c hd)
      rw [List.flatMap_cons, h c List.mem_cons_self, ih hrest, List.singleton_append]

/-- A text with nothing to respell, to lower or to trim. -/
structure IsCanonical (s : List Char) : Prop where
  spelled : ∀ c ∈ s, spell c = [c]
  lowered : ∀ c ∈ s, Text.lowerChar c = [c]
  starts : ∀ c ∈ s.head?, Text.isBlank c = false
  ends : ∀ c ∈ s.getLast?, Text.isBlank c = false

/-- **Such a text is its own canonical form.** -/
theorem canonical_of_isCanonical {s : List Char} (h : IsCanonical s) : canonical s = s := by
  have hlower : Text.lowercase s = s := Text.lowercaseAfter_of_fixed h.lowered false
  rw [canonical, flatMap_spell_of_fixed h.spelled, hlower, Text.trim_of_ends h.starts h.ends]

/-- The characters of written formulas. -/
def plain : List Char := [' ', '!', '(', ')'] ++ '0' :: '1' :: Signal.letters

/-- The canonical form keeps the characters of written formulas. -/
theorem fixed_of_mem_plain {c : Char} (h : c ∈ plain) :
    spell c = [c] ∧ Text.lowerChar c = [c] := by
  have hall : plain.all (fun c => decide (spell c = [c] ∧ Text.lowerChar c = [c])) = true := by
    decide +kernel
  exact of_decide_eq_true (List.all_eq_true.mp hall c h)

/-- **Plain texts are canonical.**  A solid text of characters of
    written formulas is its own canonical form. -/
theorem canonical_of_plain {s : List Char} (hplain : ∀ c ∈ s, c ∈ plain)
    (hsolid : Text.Solid s) : canonical s = s :=
  canonical_of_isCanonical {
    spelled := fun c hc => (fixed_of_mem_plain (hplain c hc)).1
    lowered := fun c hc => (fixed_of_mem_plain (hplain c hc)).2
    starts := hsolid.isBlank_head
    ends := hsolid.isBlank_getLast }

end Spelling

end SwitchLogic
