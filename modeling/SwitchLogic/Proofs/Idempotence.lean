import Mathlib.Data.List.DropRight
import SwitchLogic.Proofs.Respelling

/-! # Canonical forms are canonical

    Bringing a text into canonical form leaves nothing to do for a second
    time.  The replaced signs are gone, and no lowercase form is one of
    them.  What was lowered stays as it is, since the table of letter
    case leads out of itself: no run of it maps to a character that some
    run maps further.  Trimming comes last and takes away only, so no
    sigma can come to stand at the end of a word by it.

    A canonical form is therefore read like the text that it is the form
    of, under any limits. -/

namespace SwitchLogic

-- ── The table of letter case ───────────────────────────────────────

namespace Text

namespace CaseRun

/-- The greatest code point that a run maps to. -/
def lastTarget (r : CaseRun) : Nat := r.target + (r.last - r.first)

/-- Whether a run maps to nothing in a range. -/
def clearOf (r : CaseRun) (q : CodeRange) : Bool := r.lastTarget < q.first || q.last < r.target

/-- The code points of a run, counted from a base: from `first` on those
    that it maps, from `target` on those that it maps to. -/
def codes (r : CaseRun) (base : Nat) : List Nat :=
  (List.range ((r.last - r.first) / r.step + 1)).map fun i => base + r.step * i

variable {r : CaseRun} {n : Nat}

/-- A run covers the code points that are a number of steps behind its
    first one. -/
theorem covers_iff : r.covers n = true ↔
    r.first ≤ n ∧ n ≤ r.last ∧ (n - r.first) % r.step = 0 := by
  simp [covers, and_assoc]

/-- What a run maps to lies between its two targets. -/
theorem target_bounds (h : r.covers n = true) :
    r.target ≤ r.target + (n - r.first) ∧ r.target + (n - r.first) ≤ r.lastTarget := by
  obtain ⟨-, hlast, -⟩ := covers_iff.mp h
  unfold lastTarget
  omega

/-- A run that is clear of a range maps nothing into it. -/
theorem not_mem_of_clearOf {q : CodeRange} (hclear : r.clearOf q = true)
    (h : r.covers n = true) :
    ¬ (q.first ≤ r.target + (n - r.first) ∧ r.target + (n - r.first) ≤ q.last) := by
  have hbounds := target_bounds h
  simp only [clearOf, Bool.or_eq_true, decide_eq_true_eq] at hclear
  omega

/-- What a run covers is among its code points, counted from any base. -/
theorem mem_codes (h : r.covers n = true) (base : Nat) :
    base + (n - r.first) ∈ r.codes base := by
  obtain ⟨-, hlast, hstep⟩ := covers_iff.mp h
  have hdiv : r.step * ((n - r.first) / r.step) = n - r.first :=
    Nat.mul_div_cancel' (Nat.dvd_of_mod_eq_zero hstep)
  have hle : (n - r.first) / r.step ≤ (r.last - r.first) / r.step :=
    Nat.div_le_div_right (Nat.sub_le_sub_right hlast r.first)
  refine List.mem_map.mpr ⟨_, List.mem_range.mpr (Nat.lt_succ_of_le hle), ?_⟩
  rw [hdiv]

end CaseRun

/-- Ranges in which there is no lowercase form: ASCII up to the small
    letters, the signs of operations, the dotted capital I, and the code
    points that are no characters. -/
def unmappedRanges : List CodeRange :=
  [⟨0x0, 0x60⟩, ⟨0x7B, 0xDE⟩, ⟨0x130, 0x130⟩, ⟨0x305, 0x305⟩, ⟨0x2000, 0x2100⟩,
   ⟨0x2190, 0x22FF⟩, ⟨0xD800, 0xDFFF⟩]

/-- All runs keep out of these ranges, and stay among the code points. -/
theorem clearOf_and_lastTarget_lt {r : CaseRun} (hr : r ∈ caseRuns) :
    (∀ q ∈ unmappedRanges, r.clearOf q = true) ∧ r.lastTarget < 0x110000 := by
  have hall : caseRuns.all (fun r =>
      unmappedRanges.all r.clearOf && decide (r.lastTarget < 0x110000)) = true := by
    decide +kernel
  have hrun := List.all_eq_true.mp hall r hr
  rwa [Bool.and_eq_true, List.all_eq_true, decide_eq_true_eq] at hrun

/-- The number with the given bits. -/
def bits (ns : List Nat) : Nat := ns.foldr (fun n b => 1 <<< n ||| b) 0

/-- The bit of a member is set. -/
theorem testBit_bits {ns : List Nat} {n : Nat} (h : n ∈ ns) : (bits ns).testBit n = true := by
  induction ns with
  | nil => cases h
  | cons m rest ih =>
      show (1 <<< m ||| bits rest).testBit n = true
      rw [Nat.testBit_or]
      rcases List.mem_cons.mp h with rfl | h
      · simp
      · rw [ih h, Bool.or_true]

/-- The code points of all runs, as the bits of a number. -/
def codeBits (base : CaseRun → Nat) (runs : List CaseRun) : Nat :=
  runs.foldr (fun r b => bits (r.codes (base r)) ||| b) 0

/-- The bits of the code points of all runs are set. -/
theorem testBit_codeBits (base : CaseRun → Nat) {runs : List CaseRun} {r : CaseRun}
    (hr : r ∈ runs) {n : Nat} (h : n ∈ r.codes (base r)) :
    (codeBits base runs).testBit n = true := by
  induction runs with
  | nil => cases hr
  | cons r' rest ih =>
      show (bits (r'.codes (base r')) ||| codeBits base rest).testBit n = true
      rw [Nat.testBit_or]
      rcases List.mem_cons.mp hr with rfl | hr
      · rw [testBit_bits h, Bool.true_or]
      · rw [ih hr, Bool.or_true]

/-- **The table leads out of itself**: no run maps to what some run
    maps. -/
theorem not_covers_target {r r' : CaseRun} (hr : r ∈ caseRuns) (hr' : r' ∈ caseRuns) {n : Nat}
    (h : r.covers n = true) : r'.covers (r.target + (n - r.first)) = false := by
  refine Bool.eq_false_iff.mpr fun h' => ?_
  have htarget := testBit_codeBits (·.target) hr (CaseRun.mem_codes h r.target)
  have hsource := testBit_codeBits (·.first) hr' (CaseRun.mem_codes h' r'.first)
  rw [Nat.add_sub_of_le (CaseRun.covers_iff.mp h').1] at hsource
  -- one conjunction of two numbers compares all pairs of runs at once
  have hdisjoint : codeBits (·.target) caseRuns &&& codeBits (·.first) caseRuns = 0 := by
    decide +kernel
  have hboth := Nat.testBit_and (codeBits (·.target) caseRuns) (codeBits (·.first) caseRuns)
    (r.target + (n - r.first))
  rw [hdisjoint, Nat.zero_testBit, htarget, hsource] at hboth
  cases hboth

-- ── Lowercase forms ────────────────────────────────────────────────

/-- A code point is kept, or some run maps it. -/
theorem lowerCode_cases (n : Nat) : lowerCode n = n ∨
    ∃ r ∈ caseRuns, r.covers n = true ∧ lowerCode n = r.target + (n - r.first) := by
  unfold lowerCode
  cases h : caseRuns.find? (·.covers n) with
  | none => exact .inl rfl
  | some r => exact .inr ⟨r, List.mem_of_find?_eq_some h, by simpa using List.find?_some h, rfl⟩

/-- **No code point is lowered twice.** -/
theorem lowerCode_lowerCode (n : Nat) : lowerCode (lowerCode n) = lowerCode n := by
  rcases lowerCode_cases n with hsame | ⟨r, hr, hcovers, hlower⟩
  · rw [hsame, hsame]
  · have hnone : caseRuns.find? (·.covers (lowerCode n)) = none := by
      refine List.find?_eq_none.mpr fun r' hr' h' => ?_
      rw [hlower, not_covers_target hr hr' hcovers] at h'
      cases h'
    rw [lowerCode, hnone]

/-- A code point is kept, or lowered to a character outside of the ranges
    without lowercase forms. -/
theorem lowerCode_eq_or_forall (n : Nat) : lowerCode n = n ∨ lowerCode n < 0x110000 ∧
    ∀ q ∈ unmappedRanges, ¬ (q.first ≤ lowerCode n ∧ lowerCode n ≤ q.last) := by
  rcases lowerCode_cases n with hsame | ⟨r, hr, hcovers, hlower⟩
  · exact .inl hsame
  · obtain ⟨hclear, hlt⟩ := clearOf_and_lastTarget_lt hr
    rw [hlower]
    exact .inr ⟨Nat.lt_of_le_of_lt (CaseRun.target_bounds hcovers).2 hlt,
      fun q hq => CaseRun.not_mem_of_clearOf (hclear q hq) hcovers⟩

/-- The lowercase form of a character is a character. -/
theorem toNat_ofNat_lowerCode (c : Char) :
    (Char.ofNat (lowerCode c.toNat)).toNat = lowerCode c.toNat := by
  have hvalid : (lowerCode c.toNat).isValidChar := by
    rcases lowerCode_eq_or_forall c.toNat with hsame | ⟨hlt, hclear⟩
    · rw [hsame]
      exact c.valid
    · have hsurrogate := hclear ⟨0xD800, 0xDFFF⟩ (by simp [unmappedRanges])
      show lowerCode c.toNat < 0xD800 ∨ 0xDFFF < lowerCode c.toNat ∧ lowerCode c.toNat < 0x110000
      simp only at hsurrogate
      omega
  rw [Char.ofNat, dif_pos hvalid]
  rfl

/-- **What a character is lowered to** is the character itself or stands
    outside of the ranges without lowercase forms. -/
theorem eq_or_covering_of_mem_lowerChar {c d : Char} (h : d ∈ lowerChar c) :
    d = c ∨ CodeRange.covering unmappedRanges d = false := by
  unfold lowerChar at h
  split at h
  · simp only [List.mem_cons, List.not_mem_nil, or_false] at h
    rcases h with rfl | rfl
    · exact .inr (by decide)
    · exact .inr (by decide)
  · obtain rfl := List.mem_singleton.mp h
    rcases lowerCode_eq_or_forall c.toNat with hsame | ⟨-, hclear⟩
    · rw [hsame, Char.ofNat_toNat]
      exact .inl rfl
    · refine .inr (List.any_eq_false.mpr fun q hq hcovers => hclear q hq ?_)
      simpa [CodeRange.covers, toNat_ofNat_lowerCode] using hcovers

/-- The characters that are written by rules of their own, the two of the
    dotted capital I and the final sigma, are lowercase. -/
theorem lowerChar_of_mem_special {d : Char} (h : d ∈ ['i', '\u0307', 'ς']) :
    lowerChar d = [d] := by
  have hall : ['i', '\u0307', 'ς'].all (fun d => decide (lowerChar d = [d])) = true := by
    decide +kernel
  exact of_decide_eq_true (List.all_eq_true.mp hall d h)

/-- **No character is lowered twice.** -/
theorem lowerChar_of_mem_lowerChar {c d : Char} (h : d ∈ lowerChar c) : lowerChar d = [d] := by
  have hor := eq_or_covering_of_mem_lowerChar h
  unfold lowerChar at h
  split at h
  · exact lowerChar_of_mem_special (List.mem_append_left ['ς'] h)
  · rename_i hc
    obtain rfl := List.mem_singleton.mp h
    have hd : Char.ofNat (lowerCode c.toNat) ≠ '\u0130' := by
      intro hdotted
      rw [hdotted] at hor
      rcases hor with heq | hclear
      · exact hc heq.symm
      · exact absurd hclear (by decide)
    rw [lowerChar, if_neg hd, toNat_ofNat_lowerCode, lowerCode_lowerCode]

/-- Every character of a lowercase text is a final sigma or comes from the
    lowercase form of a character. -/
theorem mem_lowercaseAfter {inWord : Bool} {s : List Char} {d : Char}
    (h : d ∈ lowercaseAfter inWord s) : d = 'ς' ∨ ∃ c ∈ s, d ∈ lowerChar c := by
  induction s generalizing inWord with
  | nil => cases h
  | cons c rest ih =>
      rw [lowercaseAfter, List.mem_append] at h
      rcases h with h | h
      · split at h
        · exact .inl (List.mem_singleton.mp h)
        · exact .inr ⟨c, List.mem_cons_self, h⟩
      · rcases ih h with hsigma | ⟨c', hc', hd⟩
        · exact .inl hsigma
        · exact .inr ⟨c', List.mem_cons_of_mem c hc', hd⟩

/-- **A lowercase text has nothing left to lower**, not even at the ends
    of its words. -/
theorem lowerChar_of_mem_lowercase {s : List Char} {d : Char} (h : d ∈ lowercase s) :
    lowerChar d = [d] := by
  rcases mem_lowercaseAfter h with rfl | ⟨c, -, hd⟩
  · exact lowerChar_of_mem_special (by simp)
  · exact lowerChar_of_mem_lowerChar hd

-- ── Trimmed texts ──────────────────────────────────────────────────

/-- Trimmed at its start, a text does not start with white space. -/
theorem isBlank_head_trimStart (s : List Char) :
    ∀ c ∈ (trimStart s).head?, isBlank c = false := by
  intro c hc
  have hhead := List.head?_dropWhile_not isBlank s
  rw [Option.mem_def, trimStart] at hc
  rwa [hc] at hhead

/-- Trimming both ends leaves a first part of what trimming the start
    leaves. -/
theorem trim_prefix_trimStart (s : List Char) : trim s <+: trimStart s :=
  List.rdropWhile_prefix isBlank (trimStart s)

/-- Trimming adds no characters. -/
theorem mem_of_mem_trim {s : List Char} {c : Char} (h : c ∈ trim s) : c ∈ s := by
  have hstart : c ∈ trimStart s := (trim_prefix_trimStart s).subset h
  exact (List.dropWhile_suffix isBlank).subset hstart

/-- A trimmed text does not start with white space. -/
theorem isBlank_head_trim (s : List Char) : ∀ c ∈ (trim s).head?, isBlank c = false := by
  intro c hc
  refine isBlank_head_trimStart s c ?_
  obtain ⟨rest, hrest⟩ := trim_prefix_trimStart s
  rw [Option.mem_def] at hc ⊢
  rw [← hrest, List.head?_append, hc]
  rfl

/-- A trimmed text does not end with white space. -/
theorem isBlank_getLast_trim (s : List Char) : ∀ c ∈ (trim s).getLast?, isBlank c = false := by
  intro c hc
  refine isBlank_head_trimStart (trimStart s).reverse c ?_
  rwa [trim, trimEnd, List.getLast?_reverse] at hc

end Text

-- ── The canonical form ─────────────────────────────────────────────

namespace Spelling

/-- The eighteen signs that give way to another spelling. -/
def replacedSigns : List Char :=
  complementSigns ++
    ['⊽', '↓', '⊼', '↑', '⊕', '^', '⊙', '≡', '|', '+', '&', '*', '\u00B7', '\u22C5']

/-- No other sign stands for a connective. -/
theorem connective?_of_not_mem_replacedSigns {c : Char} (h : c ∉ replacedSigns) :
    connective? c = none := by
  unfold connective?
  split <;> simp_all [replacedSigns]

/-- The signs stand in ranges without lowercase forms, and none is
    replaced by text with a sign in it. -/
theorem covering_and_spell_of_mem_replacedSigns {c : Char} (h : c ∈ replacedSigns) :
    Text.CodeRange.covering Text.unmappedRanges c = true ∧ ∀ d ∈ spell c, d ∉ replacedSigns := by
  have hall : replacedSigns.all (fun c => Text.CodeRange.covering Text.unmappedRanges c
      && (spell c).all fun d => d ∉ replacedSigns) = true := by
    decide +kernel
  have hsign := List.all_eq_true.mp hall c h
  rw [Bool.and_eq_true, List.all_eq_true] at hsign
  exact ⟨hsign.1, fun d hd => of_decide_eq_true (hsign.2 d hd)⟩

/-- These signs are replaced and all other characters are kept. -/
theorem spell_eq_self_iff {c : Char} : spell c = [c] ↔ c ∉ replacedSigns := by
  constructor
  · intro hkept hc
    have hself : c ∈ spell c := hkept ▸ List.mem_singleton_self c
    exact (covering_and_spell_of_mem_replacedSigns hc).2 c hself hc
  · intro hc
    have hcomplement : c ∉ complementSigns := fun hmem => hc (List.mem_append_left _ hmem)
    rw [spell, if_neg hcomplement, connective?_of_not_mem_replacedSigns hc]

/-- Respelling leaves no sign. -/
theorem not_mem_replacedSigns_of_mem_spell {c d : Char} (h : d ∈ spell c) :
    d ∉ replacedSigns := by
  by_cases hc : c ∈ replacedSigns
  · exact (covering_and_spell_of_mem_replacedSigns hc).2 d h
  · rw [spell_eq_self_iff.mpr hc, List.mem_singleton] at h
    rwa [h]

/-- No lowercase form of another character is a sign. -/
theorem not_mem_replacedSigns_of_mem_lowerChar {c d : Char} (hc : c ∉ replacedSigns)
    (h : d ∈ Text.lowerChar c) : d ∉ replacedSigns := by
  rcases Text.eq_or_covering_of_mem_lowerChar h with rfl | hclear
  · exact hc
  · intro hd
    rw [(covering_and_spell_of_mem_replacedSigns hd).1] at hclear
    cases hclear

/-- **No replaced sign is left** in a canonical text. -/
theorem not_mem_replacedSigns_of_mem_canonical {s : List Char} {d : Char}
    (h : d ∈ canonical s) : d ∉ replacedSigns := by
  rcases Text.mem_lowercaseAfter (Text.mem_of_mem_trim h) with rfl | ⟨c, hc, hd⟩
  · decide
  · obtain ⟨x, -, hx⟩ := List.mem_flatMap.mp hc
    exact not_mem_replacedSigns_of_mem_lowerChar (not_mem_replacedSigns_of_mem_spell hx) hd

/-- **A canonical form is in canonical form.** -/
theorem isCanonical_canonical (s : List Char) : IsCanonical (canonical s) where
  spelled _ hc := spell_eq_self_iff.mpr (not_mem_replacedSigns_of_mem_canonical hc)
  lowered _ hc := Text.lowerChar_of_mem_lowercase (Text.mem_of_mem_trim hc)
  starts := Text.isBlank_head_trim _
  ends := Text.isBlank_getLast_trim _

/-- What is lowered is no capital of ASCII. -/
theorem isUpper_of_lowerChar {c : Char} (h : Text.lowerChar c = [c]) : c.isUpper = false := by
  refine Bool.eq_false_iff.mpr fun hc => ?_
  have hlowers : Text.lowerChar c ≠ [c] :=
    Signal.forall_isUpper (P := fun c => Text.lowerChar c ≠ [c]) (by decide +kernel) hc
  exact hlowers h

end Spelling

namespace Expression

/-- **Canonical forms are fixed points, and reading cannot tell a text
    from its canonical form.**  A canonical form has none of the eighteen
    signs that are replaced, no capital of ASCII, and no white space at
    its ends, and it is its own canonical form.  Under any limits it is
    read as the same expression as the text, but for the text that it was
    read from, or fails alike. -/
theorem read_canonical (s : List Char) :
    Spelling.canonical (Spelling.canonical s) = Spelling.canonical s ∧
      Spelling.replacedSigns.length = 18 ∧
      (∀ c ∈ Spelling.canonical s, c ∉ Spelling.replacedSigns ∧ c.isUpper = false) ∧
      (∀ c ∈ (Spelling.canonical s).head?, Text.isBlank c = false) ∧
      (∀ c ∈ (Spelling.canonical s).getLast?, Text.isBlank c = false) ∧
      ∀ limits, read limits (Spelling.canonical s)
        = (read limits s).map ({ · with source := Spelling.canonical s }) := by
  have hform : Spelling.IsCanonical (Spelling.canonical s) := Spelling.isCanonical_canonical s
  have hfixed : Spelling.canonical (Spelling.canonical s) = Spelling.canonical s :=
    Spelling.canonical_of_isCanonical hform
  refine ⟨hfixed, rfl, ?_, hform.starts, hform.ends, read_of_canonical_eq hfixed⟩
  intro c hc
  constructor
  · exact Spelling.not_mem_replacedSigns_of_mem_canonical hc
  · exact Spelling.isUpper_of_lowerChar (hform.lowered c hc)

-- the macron gives way before the sigma is lowered, so it does not prolong its word
example : Spelling.canonical ['\u00A0', 'A', 'Σ', '\u00AF', 'B', ' '] = ['a', 'ς', '!', 'b'] := by
  decide +kernel

end Expression

end SwitchLogic
