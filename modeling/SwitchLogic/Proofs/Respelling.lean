import SwitchLogic.Proofs.Reprinting

/-! # Interchangeable spellings

    An operation may be typed with any of its signs, and a binary
    connective also by its keyword between two spaces, in small letters
    or capitals.  Texts that differ in nothing but the spellings of their
    operations and the case of their ASCII letters have the same
    canonical form, and so they are read alike.

    Signs give way to keywords before anything is lowered.  From then on
    the texts differ only in the case of ASCII letters, and no step that
    follows can see that difference: not even the form of a sigma depends
    on it, since a small letter has a case where its capital has one. -/

namespace SwitchLogic

-- ── The case of ASCII letters ──────────────────────────────────────

/-- What holds of the 26 capitals holds of every capital of ASCII. -/
theorem Signal.forall_isUpper {P : Char → Prop}
    (h : ∀ i, i < 26 → P (Char.ofNat ('A'.toNat + i))) {c : Char} (hc : c.isUpper = true) :
    P c := by
  obtain ⟨hfirst, hlast⟩ : c.val ≥ 'A'.val ∧ c.val ≤ 'Z'.val := of_decide_eq_true hc
  have hle : 'A'.toNat ≤ c.toNat := UInt32.le_iff_toNat_le.mp hfirst
  have hlt : c.toNat - 'A'.toNat < 26 :=
    Nat.sub_lt_left_of_lt_add hle (Nat.lt_succ_of_le (UInt32.le_iff_toNat_le.mp hlast))
  have hcapital := h _ hlt
  rwa [Nat.add_sub_of_le hle, Char.ofNat_toNat] at hcapital

/-- **From characters to their small letters.**  What relates every
    character to itself, and the 26 capitals to their small letters,
    relates every character to its lowercase form in ASCII. -/
theorem Signal.rel_toLower {P : Char → Char → Prop} (same : ∀ c, P c c)
    (capital : ∀ i, i < 26 → P (Char.ofNat ('A'.toNat + i)) (Char.ofNat ('a'.toNat + i)))
    (c : Char) : P c c.toLower := by
  have hsmall : ∀ i, i < 26 →
      (Char.ofNat ('A'.toNat + i)).toLower = Char.ofNat ('a'.toNat + i) := by decide
  by_cases h : c.isUpper = true
  · refine forall_isUpper (P := fun c => P c c.toLower) (fun i hi => ?_) h
    rw [hsmall i hi]
    exact capital i hi
  · have hsame : c.toLower = c := dif_neg fun hval => h (decide_eq_true hval)
    rw [hsame]
    exact same c

namespace Text

/-- A letter and its small form have the same lowercase form. -/
theorem lowerChar_toLower (c : Char) : lowerChar c.toLower = lowerChar c :=
  Signal.rel_toLower (P := fun c d => lowerChar d = lowerChar c) (fun _ => rfl)
    (by decide +kernel) c

/-- A letter has a case if and only if its small form has one. -/
theorem isCased_toLower (c : Char) : isCased c.toLower = isCased c :=
  Signal.rel_toLower (P := fun c d => isCased d = isCased c) (fun _ => rfl)
    (by decide +kernel) c

/-- No letter of ASCII is ignorable for case: the ranges pass over both
    alphabets. -/
theorem isCaseIgnorable_of_asciiLetter {c : Char}
    (h : 0x41 ≤ c.toNat ∧ c.toNat ≤ 0x5A ∨ 0x61 ≤ c.toNat ∧ c.toNat ≤ 0x7A) :
    isCaseIgnorable c = false := by
  have hall : caseIgnorableRanges.all (fun r =>
      r.last < 0x41 || 0x5A < r.first && r.last < 0x61 || 0x7A < r.first) = true := by
    decide +kernel
  refine List.any_eq_false.mpr fun r hr hcovers => ?_
  have hpasses := List.all_eq_true.mp hall r hr
  simp only [Bool.or_eq_true, Bool.and_eq_true, decide_eq_true_eq] at hpasses
  simp only [CodeRange.covers, Bool.and_eq_true, decide_eq_true_eq] at hcovers
  omega

/-- A letter is skipped at the ends of words if and only if its small form
    is. -/
theorem isCaseIgnorable_toLower (c : Char) : isCaseIgnorable c.toLower = isCaseIgnorable c := by
  refine Signal.rel_toLower (P := fun c d => isCaseIgnorable d = isCaseIgnorable c) (fun _ => rfl)
    (fun i hi => ?_) c
  have hcodes : ∀ i, i < 26 → (Char.ofNat ('A'.toNat + i)).toNat = 0x41 + i ∧
      (Char.ofNat ('a'.toNat + i)).toNat = 0x61 + i := by decide
  obtain ⟨hcapital, hsmall⟩ := hcodes i hi
  rw [isCaseIgnorable_of_asciiLetter (by omega), isCaseIgnorable_of_asciiLetter (by omega)]

/-- The sigma is no small letter of ASCII, nor has it one. -/
theorem toLower_eq_sigma_iff (c : Char) : c.toLower = 'Σ' ↔ c = 'Σ' :=
  Signal.rel_toLower (P := fun c d => d = 'Σ' ↔ c = 'Σ') (fun _ => Iff.rfl)
    (by decide +kernel) c

/-- What follows a sigma is a cased letter in capitals too. -/
theorem startsCased_map_toLower (s : List Char) :
    startsCased (s.map Char.toLower) = startsCased s := by
  induction s with
  | nil => rfl
  | cons c s ih =>
      unfold startsCased at ih ⊢
      rw [List.map_cons, List.dropWhile_cons, List.dropWhile_cons, isCaseIgnorable_toLower]
      by_cases h : isCaseIgnorable c = true
      · rw [if_pos h, if_pos h]
        exact ih
      · rw [if_neg h, if_neg h]
        exact isCased_toLower c

/-- **Small letters lower to the same text**, in the same state of the
    word. -/
theorem lowercaseAfter_map_toLower (inWord : Bool) (s : List Char) :
    lowercaseAfter inWord (s.map Char.toLower) = lowercaseAfter inWord s := by
  induction s generalizing inWord with
  | nil => rfl
  | cons c s ih =>
      rw [List.map_cons, lowercaseAfter, lowercaseAfter]
      simp only [startsCased_map_toLower, lowerChar_toLower, isCased_toLower,
        isCaseIgnorable_toLower, toLower_eq_sigma_iff, ih]

/-- **Lowercasing does not see the case of ASCII letters**, wherever
    they stand. -/
theorem lowercase_congr {s t : List Char} (h : s.map Char.toLower = t.map Char.toLower) :
    lowercase s = lowercase t := by
  rw [lowercase, ← lowercaseAfter_map_toLower, h, lowercaseAfter_map_toLower, lowercase]

end Text

namespace Spelling

-- ── The spellings of an operation ──────────────────────────────────

/-- The signs that write an operation. -/
def signs : TokenKind → List Char
  | .complement => ['!', '\x27', '\u00AF', '\u0305', '\u203E']
  | .connective .nor => ['⊽', '↓']
  | .connective .nand => ['⊼', '↑']
  | .connective .xor => ['⊕', '^']
  | .connective .xnor => ['⊙', '≡']
  | .connective .or => ['|', '+']
  | .connective .and => ['&', '*', '\u00B7', '\u22C5']
  | _ => []

/-- The texts that write an operation: each of its signs, and for a
    binary connective the keyword between two spaces, each letter small
    or a capital. -/
inductive Spells : TokenKind → List Char → Prop
  | sign {kind c} : c ∈ signs kind → Spells kind [c]
  | keyword {op word} : word.map Char.toLower = op.keyword →
      Spells (.connective op) (' ' :: (word ++ [' ']))

/-- Two texts that differ at most in the spellings of some operations and
    in the case of some ASCII letters. -/
inductive Respelled : List Char → List Char → Prop
  | nil : Respelled [] []
  /-- An operation in another of its spellings. -/
  | operation {kind u v s t} : Spells kind u → Spells kind v → Respelled s t →
      Respelled (u ++ s) (v ++ t)
  /-- A letter in another case, or any character as it is. -/
  | letter {c d s t} : c.toLower = d.toLower → Respelled s t → Respelled (c :: s) (d :: t)

/-- What is written in place of an operation. -/
def written : TokenKind → List Char
  | .complement => ['!']
  | .connective op => ' ' :: (op.keyword ++ [' '])
  | _ => []

/-- Every sign gives way to the same text as the others of its
    operation. -/
theorem spell_of_mem_signs {kind : TokenKind} {c : Char} (h : c ∈ signs kind) :
    spell c = written kind := by
  have hall : (signs kind).all (fun c => decide (spell c = written kind)) = true := by
    cases kind with
    | connective op =>
        obtain ⟨f, inverting⟩ := op
        cases f <;> cases inverting <;> decide
    | _ => decide
  exact of_decide_eq_true (List.all_eq_true.mp hall c h)

/-- Letters are written in place of themselves. -/
theorem map_toLower_spell (c : Char) :
    (spell c.toLower).map Char.toLower = (spell c).map Char.toLower :=
  Signal.rel_toLower (P := fun c d => (spell d).map Char.toLower = (spell c).map Char.toLower)
    (fun _ => rfl) (by decide +kernel) c

-- ── Texts without signs ────────────────────────────────────────────

/-- What a text becomes before it is lowered and trimmed, all ASCII
    letters made small. -/
def folded (s : List Char) : List Char := (s.flatMap spell).map Char.toLower

theorem folded_append (s t : List Char) : folded (s ++ t) = folded s ++ folded t := by
  rw [folded, List.flatMap_append, List.map_append]
  rfl

theorem folded_cons (c : Char) (s : List Char) :
    folded (c :: s) = (spell c).map Char.toLower ++ folded s := by
  rw [folded, List.flatMap_cons, List.map_append]
  rfl

/-- Folding does not see the case of the letters. -/
theorem folded_map_toLower (s : List Char) : folded (s.map Char.toLower) = folded s := by
  induction s with
  | nil => rfl
  | cons c s ih => rw [List.map_cons, folded_cons, folded_cons, map_toLower_spell, ih]

/-- Keywords are folded already. -/
theorem folded_keyword (op : Connective) : folded op.keyword = op.keyword := by
  obtain ⟨f, inverting⟩ := op
  cases f <;> cases inverting <;> rfl

/-- What is written for a token is in small letters already. -/
theorem map_toLower_written (kind : TokenKind) :
    (written kind).map Char.toLower = written kind := by
  cases kind with
  | connective op =>
      obtain ⟨f, inverting⟩ := op
      cases f <;> cases inverting <;> rfl
  | _ => rfl

/-- All spellings of an operation are written alike. -/
theorem folded_of_spells {kind : TokenKind} {u : List Char} (h : Spells kind u) :
    folded u = written kind := by
  cases h with
  | sign hc =>
      rw [folded_cons, spell_of_mem_signs hc, map_toLower_written]
      exact List.append_nil _
  | @keyword op word hword =>
      have hletters : folded word = op.keyword := by
        rw [← folded_map_toLower, hword, folded_keyword]
      rw [folded_cons, folded_append, hletters]
      rfl

/-- **Respelling is lost** before the text is lowered. -/
theorem folded_of_respelled {s t : List Char} (h : Respelled s t) : folded s = folded t := by
  induction h with
  | nil => rfl
  | operation hu hv _ ih =>
      rw [folded_append, folded_append, folded_of_spells hu, folded_of_spells hv, ih]
  | @letter c d s t hcase _ ih =>
      have hspell : (spell c).map Char.toLower = (spell d).map Char.toLower := by
        rw [← map_toLower_spell c, hcase, map_toLower_spell]
      rw [folded_cons, folded_cons, hspell, ih]

/-- **Respelled texts have the same canonical form.** -/
theorem canonical_of_respelled {s t : List Char} (h : Respelled s t) :
    canonical s = canonical t := by
  rw [canonical, canonical, Text.lowercase_congr (folded_of_respelled h)]

end Spelling

-- ── Reading ────────────────────────────────────────────────────────

namespace Expression

/-- A text is read through its canonical form. -/
theorem read_of_canonical_eq {s t : List Char}
    (h : Spelling.canonical t = Spelling.canonical s) (limits : Limits) :
    read limits t = (read limits s).map ({ · with source := t }) := by
  rw [read, read, h]
  by_cases hlong : (Spelling.canonical s).length > limits.maxLength
  · rw [if_pos hlong, if_pos hlong]
    rfl
  · rw [if_neg hlong, if_neg hlong]
    cases Token.ofText (Spelling.canonical s) with
    | error e => rfl
    | ok tokens =>
        simp only
        cases Formula.ofTokens limits.maxDepth tokens with
        | error e => rfl
        | ok formula => rfl

/-- **Spellings are interchangeable.**  Texts that differ in the
    spellings of operations and in the case of ASCII letters have the
    same canonical form; under any limits they are read as the same
    expression, but for the text that it was read from, or fail alike. -/
theorem read_of_respelled {s t : List Char} (h : Spelling.Respelled s t) :
    Spelling.canonical t = Spelling.canonical s ∧
      ∀ limits, read limits t = (read limits s).map ({ · with source := t }) := by
  have hcanonical : Spelling.canonical t = Spelling.canonical s :=
    (Spelling.canonical_of_respelled h).symm
  exact ⟨hcanonical, fun limits => read_of_canonical_eq hcanonical limits⟩

open Spelling in
/-- The texts `A'*B⊽c` and `a‾ And b↓C` write the same formula. -/
theorem read_of_respelled_nor :
    let s := ['A', '\x27', '*', 'B', '⊽', 'c']
    let t := ['a', '\u203E', ' ', 'A', 'n', 'd', ' ', 'b', '↓', 'C']
    let e := Formula.nor (.and (.not (.leaf 'a')) (.leaf 'b')) (.leaf 'c')
    Respelled s t ∧ ∃ x, read Limits.standard s = .ok x ∧ x.formula = e ∧
      read Limits.standard t = .ok { x with source := t } := by
  intro s t e
  have hnor : Respelled ['⊽', 'c'] ['↓', 'C'] :=
    .operation (.sign (show '⊽' ∈ signs (.connective .nor) from by decide))
      (.sign (show '↓' ∈ signs (.connective .nor) from by decide)) (.letter (by decide) .nil)
  have hand : Respelled ['*', 'B', '⊽', 'c'] [' ', 'A', 'n', 'd', ' ', 'b', '↓', 'C'] :=
    .operation (.sign (show '*' ∈ signs (.connective .and) from by decide))
      (.keyword (show ['A', 'n', 'd'].map Char.toLower = Connective.and.keyword from by decide))
      (.letter (by decide) hnor)
  have hst : Respelled s t :=
    .letter (by decide)
      (.operation (.sign (show '\x27' ∈ signs .complement from by decide))
        (.sign (show '\u203E' ∈ signs .complement from by decide)) hand)
  obtain ⟨x, hx, hformula⟩ : ∃ x, read Limits.standard s = .ok x ∧ x.formula = e :=
    exists_read (by decide +kernel)
  refine ⟨hst, x, hx, hformula, ?_⟩
  rw [(read_of_respelled hst).2, hx]
  rfl

end Expression

end SwitchLogic
