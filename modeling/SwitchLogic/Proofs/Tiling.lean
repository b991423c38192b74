import SwitchLogic.Proofs.Spelled

/-! # The tokens tile their text

    What a text is cut into can be said without cutting it.  Every token
    stands in the text where it says it does, and is the token that its
    place asks for: on a letter the keyword that is written there, if
    there is one, and else the letter alone.  The tokens come in order,
    none runs into the next, and between them lies exactly the white
    space.

    Only one list of tokens does all this, because the first character
    that is left over is either white space or the start of the next
    token.  Such a list exists unless some character may not stand in a
    text at all, and then the first one of these is reported. -/

namespace SwitchLogic.Token

variable {kind : TokenKind} {text rest s : List Char} {start position : Nat} {c : Char}
  {ts : List Token}

-- ── At most one keyword ────────────────────────────────────────────

/-- No keyword is the start of another. -/
theorem eq_of_prefix_keyword {k k' : List Char × TokenKind} (hk : k ∈ keywords)
    (hk' : k' ∈ keywords) (h : k.1 <+: k'.1) : k = k' := by
  have hall : (keywords.all fun k => keywords.all fun k' =>
      !k.1.isPrefixOf k'.1 || decide (k = k')) = true := by decide
  have hpair := List.all_eq_true.mp (List.all_eq_true.mp hall k hk) k' hk'
  rw [List.isPrefixOf_iff_prefix.mpr h] at hpair
  exact of_decide_eq_true hpair

/-- At most one keyword is written at the start of a text. -/
theorem eq_of_keywords_written {k k' : List Char × TokenKind} (hk : k ∈ keywords)
    (hk' : k' ∈ keywords) (h : k.1 <+: s) (h' : k'.1 <+: s) : k = k' := by
  rcases List.prefix_or_prefix_of_prefix h h' with hprefix | hprefix
  · exact eq_of_prefix_keyword hk hk' hprefix
  · exact (eq_of_prefix_keyword hk' hk hprefix).symm

/-- No keyword is found where none is written. -/
theorem keyword?_eq_none_iff : keyword? s = none ↔ ∀ k ∈ keywords, ¬ k.1 <+: s := by
  simp only [keyword?, List.find?_eq_none, List.isPrefixOf_iff_prefix]

/-- A keyword that is written is found: no other one is written there too. -/
theorem keyword?_eq_some {k : List Char × TokenKind} (hk : k ∈ keywords) (h : k.1 <+: s) :
    keyword? s = some k := by
  cases hfound : keyword? s with
  | none => exact absurd h (keyword?_eq_none_iff.mp hfound k hk)
  | some k' =>
      obtain ⟨hk', h'⟩ := mem_of_keyword? hfound
      rw [eq_of_keywords_written hk' hk h' h]

-- ── The token of a place ───────────────────────────────────────────

/-- A token that fits its place in a text. -/
structure Fits (s : List Char) (t : Token) : Prop where
  /-- Its text may write its kind. -/
  written : Writes t.kind t.text
  /-- Its text stands in the text at its position. -/
  slice : t.text <+: s.drop t.position
  /-- Where a keyword is written, it is that keyword. -/
  keyword : ∀ k ∈ keywords, k.1 <+: s.drop t.position → (t.text, t.kind) = k
  /-- Where a letter starts no keyword, it is that letter alone. -/
  letter : ∀ c, s[t.position]? = some c → Signal.isLetter c = true →
    (∀ k ∈ keywords, ¬ k.1 <+: s.drop t.position) → (t.text, t.kind) = ([c], .operand)

/-- What is left of a text starts with the next character. -/
theorem getElem?_of_drop (h : s.drop start = c :: rest) : s[start]? = some c := by
  rw [← List.head?_drop, h]
  rfl

/-- Every keyword starts with a letter. -/
theorem isLetter_of_keyword {k : List Char × TokenKind} (hk : k ∈ keywords)
    (h : k.1 <+: c :: rest) : Signal.isLetter c = true := by
  obtain ⟨a, b, ds, htext, ha, -⟩ := exists_of_mem_keywords k hk
  rw [htext] at h
  obtain rfl : a = c := (List.cons_prefix_cons.mp h).1
  exact ha

/-- No keyword is an operand. -/
theorem kind_ne_of_keyword {k : List Char × TokenKind} (hk : k ∈ keywords) :
    k.2 ≠ .operand := by
  have hall : (keywords.all fun k => decide (k.2 ≠ .operand)) = true := by decide
  exact of_decide_eq_true (List.all_eq_true.mp hall k hk)

/-- **Cutting takes the token that fits.**  The token that is cut off at
    a place is the only one that fits it. -/
theorem fits_iff {t : Token} (h : s.drop t.position = c :: rest) :
    Fits s t ↔ lexeme? c rest = some (t.text, t.kind) := by
  constructor
  · rintro ⟨hwritten, hslice, hkeyword, -⟩
    rw [h] at hslice hkeyword
    obtain ⟨behind, hbehind⟩ := hslice
    by_cases hkind : t.kind = .operand
    · -- an operand is one character, on which no keyword is written
      rw [hkind] at hwritten ⊢
      obtain ⟨d, htext, hd⟩ := text_of_writes_operand hwritten
      rw [htext] at hbehind ⊢
      cases hbehind
      refine lexeme?_of_isWritable hd (keyword?_eq_none_iff.mpr fun k hk hprefix => ?_)
      have hkind' : t.kind = k.2 := congrArg Prod.snd (hkeyword k hk hprefix)
      exact kind_ne_of_keyword hk (hkind'.symm.trans hkind)
    · obtain ⟨d, ds, htext, -, hlexeme⟩ : ∃ d ds, t.text = d :: ds ∧
          Text.isBlank d = false ∧ lexeme? d (ds ++ behind) = some (t.text, t.kind) :=
        lexeme?_of_writes hwritten fun hoperand => absurd hoperand hkind
      rw [htext] at hbehind
      cases hbehind
      exact hlexeme
  · intro hlexeme
    obtain ⟨hwritten, hslice⟩ := writes_of_lexeme? hlexeme
    refine ⟨hwritten, h ▸ hslice, fun k hk hprefix => ?_, fun d hd hletter hnone => ?_⟩
    · rw [h] at hprefix
      rw [lexeme?_of_isLetter (isLetter_of_keyword hk hprefix),
        keyword?_eq_some hk hprefix] at hlexeme
      exact (Option.some.inj hlexeme).symm
    · obtain rfl : c = d := Option.some.inj ((getElem?_of_drop h).symm.trans hd)
      rw [h] at hnone
      rw [lexeme?_of_isLetter hletter, keyword?_eq_none_iff.mpr hnone] at hlexeme
      exact (Option.some.inj hlexeme).symm

/-- What is left of a text behind a token that starts there. -/
theorem drop_of_lexeme? (h : s.drop start = c :: rest)
    (hlexeme : lexeme? c rest = some (text, kind)) :
    s.drop (start + text.length) = rest.drop (text.length - 1) := by
  rw [← List.drop_drop, h, ← append_of_lexeme? hlexeme, List.drop_left]

-- ── Tilings ────────────────────────────────────────────────────────

/-- The position behind a token. -/
def stop (t : Token) : Nat := t.position + t.text.length

/-- Whether a position of a text belongs to a token. -/
def Covers (t : Token) (i : Nat) : Prop := t.position ≤ i ∧ i < t.stop

/-- Tokens that tile a text from the position `start` on. -/
structure Tiles (start : Nat) (s : List Char) (ts : List Token) : Prop where
  fits : ∀ t ∈ ts, Fits s t
  within : ∀ t ∈ ts, start ≤ t.position
  increasing : ts.Pairwise fun t u => t.position < u.position
  /-- No token runs into a later one. -/
  apart : ts.Pairwise fun t u => t.stop ≤ u.position
  /-- What lies outside the tokens is white space, and nothing else is. -/
  outside : ∀ i c, start ≤ i → s[i]? = some c →
    (Text.isBlank c = true ↔ ∀ t ∈ ts, ¬ t.Covers i)

/-- A token that fits has a character. -/
theorem Fits.length_pos {t : Token} (h : Fits s t) : 0 < t.text.length :=
  length_pos_of_writes h.written

/-- A token covers the place where it starts. -/
theorem Fits.covers_position {t : Token} (h : Fits s t) : t.Covers t.position :=
  ⟨Nat.le_refl _, Nat.lt_add_of_pos_right h.length_pos⟩

/-- No token fits behind the end of a text. -/
theorem Fits.position_lt {t : Token} (h : Fits s t) : t.position < s.length := by
  have hpos := h.length_pos
  have hle := h.slice.length_le
  rw [List.length_drop] at hle
  omega

/-- A token of a tiling that covers its first position stands there. -/
theorem Tiles.position_eq {t : Token} (h : Tiles start s ts) (ht : t ∈ ts)
    (hcovers : t.Covers start) : t.position = start :=
  Nat.le_antisymm hcovers.1 (h.within t ht)

/-- Behind the end of a text there is only the empty tiling. -/
theorem tiles_of_drop_nil (h : s.drop start = []) : Tiles start s ts ↔ ts = [] := by
  have hlength : s.length ≤ start := List.drop_eq_nil_iff.mp h
  constructor
  · intro htiles
    refine List.eq_nil_iff_forall_not_mem.mpr fun t ht => ?_
    have hlt := (htiles.fits t ht).position_lt
    have hle := htiles.within t ht
    omega
  · rintro rfl
    refine ⟨by simp, by simp, .nil, .nil, fun i c hi hc => ?_⟩
    have hlt := (List.getElem?_eq_some_iff.mp hc).1
    omega

/-- White space belongs to no token. -/
theorem tiles_of_blank (h : s.drop start = c :: rest) (hblank : Text.isBlank c = true) :
    Tiles start s ts ↔ Tiles (start + 1) s ts := by
  have hc := getElem?_of_drop h
  constructor
  · intro htiles
    refine ⟨htiles.fits, fun t ht => ?_, htiles.increasing, htiles.apart, fun i d hi hd => ?_⟩
    · have hfree := (htiles.outside start c (Nat.le_refl _) hc).mp hblank t ht
      have hne : t.position ≠ start := fun heq => hfree (heq ▸ (htiles.fits t ht).covers_position)
      exact Nat.lt_of_le_of_ne (htiles.within t ht) hne.symm
    · exact htiles.outside i d (Nat.le_of_succ_le hi) hd
  · intro htiles
    refine ⟨htiles.fits, fun t ht => Nat.le_of_succ_le (htiles.within t ht), htiles.increasing,
      htiles.apart, fun i d hi hd => ?_⟩
    rcases Nat.eq_or_lt_of_le hi with rfl | hlt
    · obtain rfl : c = d := Option.some.inj (hc.symm.trans hd)
      refine iff_of_true hblank fun t ht hcovers => ?_
      exact Nat.not_succ_le_self _ (Nat.le_trans (htiles.within t ht) hcovers.1)
    · exact htiles.outside i d hlt hd

/-- At a character other than white space a tiling has its first token,
    and the token fits. -/
theorem Tiles.exists_cons (htiles : Tiles start s ts) (h : s.drop start = c :: rest)
    (hblank : Text.isBlank c = false) :
    ∃ t us, ts = t :: us ∧ t.position = start ∧ lexeme? c rest = some (t.text, t.kind) := by
  have houtside := htiles.outside start c (Nat.le_refl _) (getElem?_of_drop h)
  rw [hblank] at houtside
  obtain ⟨t, ht, hcovers⟩ : ∃ t ∈ ts, t.Covers start :=
    Classical.byContradiction fun hnone =>
      Bool.noConfusion (houtside.mpr fun t ht hcovers => hnone ⟨t, ht, hcovers⟩)
  have hposition := htiles.position_eq ht hcovers
  have hlexeme := (fits_iff (hposition ▸ h)).mp (htiles.fits t ht)
  cases ts with
  | nil => cases ht
  | cons u us =>
      rcases List.mem_cons.mp ht with rfl | ht
      · exact ⟨t, us, rfl, hposition, hlexeme⟩
      · -- a token in front of this one would stand before the first position
        have hbefore := (List.pairwise_cons.mp htiles.increasing).1 t ht
        have hle := htiles.within u List.mem_cons_self
        omega

/-- The characters of a token are not white space. -/
theorem Fits.isBlank_eq_false {t : Token} (hfits : Fits s t) {i : Nat} (hcovers : t.Covers i)
    (hc : s[i]? = some c) : Text.isBlank c = false := by
  obtain ⟨behind, hbehind⟩ := hfits.slice
  obtain ⟨j, rfl⟩ := Nat.exists_eq_add_of_le hcovers.1
  have hj : j < t.text.length := Nat.add_lt_add_iff_left.mp hcovers.2
  rw [← List.getElem?_drop, ← hbehind, List.getElem?_append_left hj] at hc
  exact isBlank_of_writes hfits.written c (List.mem_of_getElem? hc)

/-- A tiling goes on behind its first token. -/
theorem tiles_cons {t : Token} {us : List Token} (hfits : Fits s t) :
    Tiles t.position s (t :: us) ↔ Tiles t.stop s us := by
  have hstop : t.position < t.stop := hfits.covers_position.2
  constructor
  · intro htiles
    have hapart := List.pairwise_cons.mp htiles.apart
    refine ⟨fun u hu => htiles.fits u (List.mem_cons_of_mem t hu), hapart.1,
      (List.pairwise_cons.mp htiles.increasing).2, hapart.2, fun i c hi hc => ?_⟩
    rw [htiles.outside i c (Nat.le_of_lt (Nat.lt_of_lt_of_le hstop hi)) hc, List.forall_mem_cons]
    exact and_iff_right fun hcovers => Nat.not_le_of_lt hcovers.2 hi
  · intro htiles
    refine ⟨List.forall_mem_cons.mpr ⟨hfits, htiles.fits⟩,
      List.forall_mem_cons.mpr ⟨Nat.le_refl _, fun u hu => ?_⟩,
      List.pairwise_cons.mpr ⟨fun u hu => ?_, htiles.increasing⟩,
      List.pairwise_cons.mpr ⟨htiles.within, htiles.apart⟩, fun i c hi hc => ?_⟩
    · exact Nat.le_of_lt (Nat.lt_of_lt_of_le hstop (htiles.within u hu))
    · exact Nat.lt_of_lt_of_le hstop (htiles.within u hu)
    · rw [List.forall_mem_cons]
      by_cases hcovers : t.Covers i
      · rw [hfits.isBlank_eq_false hcovers hc]
        exact iff_of_false Bool.false_ne_true fun hfree => hfree.1 hcovers
      · have hbehind : t.stop ≤ i := Nat.le_of_not_lt fun hlt => hcovers ⟨hi, hlt⟩
        rw [htiles.outside i c hbehind hc]
        exact (and_iff_right hcovers).symm

/-- At a token a tiling takes the token and goes on behind it. -/
theorem tiles_of_lexeme (h : s.drop start = c :: rest) (hblank : Text.isBlank c = false)
    (hlexeme : lexeme? c rest = some (text, kind)) :
    Tiles start s ts ↔
      ∃ us, ts = ⟨kind, text, start⟩ :: us ∧ Tiles (start + text.length) s us := by
  have hfits : Fits s ⟨kind, text, start⟩ := (fits_iff (t := ⟨kind, text, start⟩) h).mpr hlexeme
  constructor
  · intro htiles
    obtain ⟨⟨kind', text', position⟩, us, rfl, hposition, hlexeme'⟩ := htiles.exists_cons h hblank
    obtain rfl : position = start := hposition
    cases hlexeme.symm.trans hlexeme'
    exact ⟨us, rfl, (tiles_cons hfits).mp htiles⟩
  · rintro ⟨us, rfl, htiles⟩
    exact (tiles_cons hfits).mpr htiles

/-- **Cutting tiles.**  From any position on, the tokens that are cut
    off are the one tiling of what is left of the text. -/
theorem listFrom_eq_ok_iff (h : s.drop start = rest) :
    listFrom start rest = .ok ts ↔ Tiles start s ts := by
  -- the position grows with the characters that are taken, so what is left stays its suffix
  fun_induction listFrom start rest generalizing ts with
  | case1 start =>
      rw [tiles_of_drop_nil h, Except.ok.injEq]
      exact eq_comm
  | case2 start c rest hblank ih =>
      have hrest : s.drop (start + 1) = rest := by rw [← List.drop_drop, h]; rfl
      rw [tiles_of_blank h hblank]
      exact ih hrest
  | case3 start c rest hblank hnone =>
      refine iff_of_false (fun herror => by cases herror) fun htiles => ?_
      obtain ⟨t, us, -, -, hlexeme⟩ := htiles.exists_cons h (Bool.eq_false_iff.mpr hblank)
      cases hnone.symm.trans hlexeme
  | case4 start c rest hblank text kind hlexeme e herror ih =>
      have hrest := drop_of_lexeme? h hlexeme
      rw [tiles_of_lexeme h (Bool.eq_false_iff.mpr hblank) hlexeme]
      refine iff_of_false (fun herror => by cases herror) ?_
      rintro ⟨us, -, htiles⟩
      cases herror.symm.trans ((ih hrest).mpr htiles)
  | case5 start c rest hblank text kind hlexeme tokens htokens ih =>
      have hrest := drop_of_lexeme? h hlexeme
      rw [tiles_of_lexeme h (Bool.eq_false_iff.mpr hblank) hlexeme]
      constructor
      · intro hts
        cases hts
        exact ⟨tokens, rfl, (ih hrest).mp htokens⟩
      · rintro ⟨us, rfl, htiles⟩
        cases htokens.symm.trans ((ih hrest).mpr htiles)
        rfl

-- ── Characters that may not stand in a text ────────────────────────

/-- Whether a character may stand in a text: white space, a letter or a
    constant, a parenthesis, or the sign of complement. -/
def isLegal (c : Char) : Bool :=
  Text.isBlank c || Signal.isWritable c || c = '(' || c = ')' || c = '!'

/-- Written tokens consist of characters that may stand in a text. -/
theorem isLegal_of_writes (h : Writes kind text) : ∀ d ∈ text, isLegal d = true := by
  intro d hd
  rcases sign_or_isWritable_of_writes h d hd with hsign | hwritable
  · have hall : ['(', ')', '!'].all isLegal = true := by decide
    exact List.all_eq_true.mp hall d hsign
  · simp only [isLegal, hwritable, Bool.or_true, Bool.true_or]

/-- A token starts at every character that may stand in a text, white
    space apart. -/
theorem exists_lexeme?_of_isLegal (hblank : Text.isBlank c = false) (h : isLegal c = true)
    (rest : List Char) : ∃ l, lexeme? c rest = some l := by
  simp only [isLegal, hblank, Bool.false_or, Bool.or_eq_true, decide_eq_true_eq] at h
  rcases h with ((hwritable | rfl) | rfl) | rfl
  · rw [Signal.isWritable, Bool.or_eq_true] at hwritable
    rcases hwritable with hletter | hconstant
    · exact ⟨_, lexeme?_of_isLetter hletter rest⟩
    · obtain ⟨v, hv⟩ := Option.isSome_iff_exists.mp hconstant
      obtain rfl := Signal.constant?_eq_some_iff.mp hv
      cases v <;> exact ⟨_, rfl⟩
  · exact ⟨_, rfl⟩
  · exact ⟨_, rfl⟩
  · exact ⟨_, rfl⟩

/-- The failure to report for a text whose first character has the given
    position: its first character that may not stand in a text. -/
def illegal? (position : Nat) (s : List Char) : Option Error :=
  (s.find? (!isLegal ·)).map fun c =>
    .unknownCharacter c (position + s.findIdx (!isLegal ·))

/-- Characters that may stand in a text only move the failure on. -/
theorem illegal?_append (h : ∀ d ∈ text, isLegal d = true) (behind : List Char) :
    illegal? position (text ++ behind) = illegal? (position + text.length) behind := by
  have hlegal : ∀ d ∈ text, (!isLegal d) = false := fun d hd => by rw [h d hd]; rfl
  have hfind : text.find? (!isLegal ·) = none :=
    List.find?_eq_none.mpr fun d hd => Bool.eq_false_iff.mp (hlegal d hd)
  have hidx : text.findIdx (!isLegal ·) = text.length := List.findIdx_eq_length.mpr hlegal
  rw [illegal?, illegal?, List.find?_append, hfind, Option.none_or, List.findIdx_append, hidx,
    if_neg (Nat.lt_irrefl _), Nat.add_comm (behind.findIdx _), Nat.add_assoc]

/-- An illegal character is reported where it stands. -/
theorem illegal?_cons (h : isLegal c = false) :
    illegal? position (c :: rest) = some (.unknownCharacter c position) := by
  simp [illegal?, h, List.findIdx_cons]

/-- The characters of a token are legal. -/
theorem illegal?_of_lexeme? (h : lexeme? c rest = some (text, kind)) :
    illegal? position (c :: rest)
      = illegal? (position + text.length) (rest.drop (text.length - 1)) := by
  rw [← append_of_lexeme? h, illegal?_append (isLegal_of_writes (writes_of_lexeme? h).1)]

/-- **The first character that may not stand in a text is reported**, and
    there is no other failure. -/
theorem listFrom_eq_error_iff {err : Error} :
    listFrom position s = .error err ↔ illegal? position s = some err := by
  fun_induction listFrom position s with
  | case1 position => simp [illegal?]
  | case2 position c rest hblank ih =>
      have hlegal : ∀ d ∈ [c], isLegal d = true := by simp [isLegal, hblank]
      have hskip : illegal? position (c :: rest) = illegal? (position + 1) rest :=
        illegal?_append hlegal rest
      rw [ih, hskip]
  | case3 position c rest hblank hnone =>
      have hillegal : isLegal c = false := Bool.eq_false_iff.mpr fun hlegal => by
        obtain ⟨l, hl⟩ := exists_lexeme?_of_isLegal (Bool.eq_false_iff.mpr hblank) hlegal rest
        cases hnone.symm.trans hl
      rw [illegal?_cons hillegal, Except.error.injEq, Option.some.injEq]
  | case4 position c rest hblank text kind hlexeme e herror ih =>
      rw [illegal?_of_lexeme? hlexeme, ← ih, herror]
  | case5 position c rest hblank text kind hlexeme tokens htokens ih =>
      rw [illegal?_of_lexeme? hlexeme, ← ih, htokens]
      exact iff_of_false (fun h => by cases h) fun h => by cases h

/-- **The tokens of a text are its one tiling.**  A text is refused
    exactly when some character may not stand in it, and the first such
    character is reported with its position.  Every other text is cut
    into the only list of tokens that tiles it: in order, apart from each
    other, with nothing but white space outside, each token written at its
    place, and on a letter the one keyword that is written there, or else
    the letter alone. -/
theorem ofText_tiles (s : List Char) :
    ((∃ err, ofText s = .error err) ↔ ∃ c ∈ s, isLegal c = false) ∧
      (∀ err, ofText s = .error err ↔ ∃ c, s.find? (!isLegal ·) = some c ∧
        err = .unknownCharacter c (s.findIdx (!isLegal ·))) ∧
      (∀ ts, ofText s = .ok ts ↔ Tiles 0 s ts) ∧
      ∀ i, ∀ k ∈ keywords, ∀ k' ∈ keywords, k.1 <+: s.drop i → k'.1 <+: s.drop i → k = k' := by
  have herror : ∀ err, ofText s = .error err ↔ ∃ c, s.find? (!isLegal ·) = some c ∧
      err = .unknownCharacter c (s.findIdx (!isLegal ·)) := by
    intro err
    rw [ofText, listFrom_eq_error_iff, illegal?, Option.map_eq_some_iff]
    simp only [Nat.zero_add, eq_comm]
  refine ⟨?_, herror, fun ts => listFrom_eq_ok_iff List.drop_zero,
    fun i k hk k' hk' => eq_of_keywords_written hk hk'⟩
  constructor
  · rintro ⟨err, h⟩
    obtain ⟨c, hfind, -⟩ := (herror err).mp h
    have hc := List.find?_some hfind
    exact ⟨c, List.mem_of_find?_eq_some hfind, by simpa using hc⟩
  · rintro ⟨c, hc, hillegal⟩
    have hsome : (s.find? (!isLegal ·)).isSome = true :=
      List.find?_isSome.mpr ⟨c, hc, by rw [hillegal]; rfl⟩
    obtain ⟨d, hd⟩ := Option.isSome_iff_exists.mp hsome
    exact ⟨_, (herror _).mpr ⟨d, hd, rfl⟩⟩

-- `nor` and `or` are written inside the last token, which starts in front of them
example : (ofText "noxnor".toList).toOption = some
    [⟨.operand, ['n'], 0⟩, ⟨.operand, ['o'], 1⟩, ⟨.connective .xnor, ['x', 'n', 'o', 'r'], 2⟩] := by
  decide +kernel

end SwitchLogic.Token
