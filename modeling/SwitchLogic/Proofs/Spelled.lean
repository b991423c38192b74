import SwitchLogic.Proofs.Cutting

/-! # What a text is cut into

    Every token that comes out of a text is well written: its text is one
    that may write its kind, and it stands where the token starts.  Since
    no such text contains white space, the tokens side by side spell the
    text without its white space, character by character. -/

namespace SwitchLogic.Token

variable {kind : TokenKind} {text rest s : List Char} {position : Nat} {c : Char}

/-- The texts of some tokens, side by side. -/
def spelled (ts : List Token) : List Char := ts.flatMap Token.text

theorem spelled_cons (t : Token) (ts : List Token) : spelled (t :: ts) = t.text ++ spelled ts :=
  List.flatMap_cons

theorem spelled_append (us vs : List Token) : spelled (us ++ vs) = spelled us ++ spelled vs :=
  List.flatMap_append

/-- Every keyword writes a token of its kind. -/
theorem writes_of_mem_keywords : ∀ k ∈ keywords, Writes k.2 k.1 := by
  simp only [keywords, List.forall_mem_cons]
  exact ⟨.connective .nand, .connective .nor, .word, .connective .xnor, .connective .xor,
    .connective .and, .connective .or, by simp⟩

/-- A keyword that is found is written there. -/
theorem mem_of_keyword? {k : List Char × TokenKind} (h : keyword? s = some k) :
    k ∈ keywords ∧ k.1 <+: s := by
  have hprefix := List.find?_some h
  exact ⟨List.mem_of_find?_eq_some h, List.isPrefixOf_iff_prefix.mp hprefix⟩

/-- **A token is well written where it starts.** -/
theorem writes_of_lexeme? (h : lexeme? c rest = some (text, kind)) :
    Writes kind text ∧ text <+: c :: rest := by
  have hsingle : [c] <+: c :: rest := ⟨rest, rfl⟩
  -- one case for each kind of first character, in the order in which they are tried
  unfold lexeme? at h
  split at h
  · rename_i hc
    cases h
    exact ⟨hc ▸ .opening, hsingle⟩
  split at h
  · rename_i hc
    cases h
    exact ⟨hc ▸ .closing, hsingle⟩
  split at h
  · rename_i hc
    cases h
    exact ⟨hc ▸ .bang, hsingle⟩
  split at h
  · rename_i hletter
    split at h
    · rename_i k hkeyword
      cases h
      obtain ⟨hk, hprefix⟩ := mem_of_keyword? hkeyword
      exact ⟨writes_of_mem_keywords _ hk, hprefix⟩
    · cases h
      exact ⟨.operand (by rw [Signal.isWritable, hletter]; rfl), hsingle⟩
  split at h
  · rename_i hconstant
    cases h
    exact ⟨.operand (by rw [Signal.isWritable, hconstant, Bool.or_true]), hsingle⟩
  · cases h

/-- A connective is written by its keyword only. -/
theorem text_of_writes_connective (h : Writes kind text) {op : Connective}
    (hkind : kind = .connective op) : text = op.keyword := by
  cases h with
  | connective _ =>
      cases hkind
      rfl
  | _ => cases hkind

/-- An operand is written by one character. -/
theorem text_of_writes_operand (h : Writes .operand text) :
    ∃ c, text = [c] ∧ Signal.isWritable c = true := by
  cases h with
  | operand hc => exact ⟨_, rfl, hc⟩

/-- No token is written by the empty text. -/
theorem length_pos_of_writes (h : Writes kind text) : 0 < text.length := by
  cases h with
  | connective op =>
      obtain ⟨f, inverting⟩ := op
      cases f <;> cases inverting <;> decide
  | operand _ => exact Nat.one_pos
  | _ => decide

/-- A token and what is left behind it make up the text. -/
theorem append_of_lexeme? (h : lexeme? c rest = some (text, kind)) :
    text ++ rest.drop (text.length - 1) = c :: rest := by
  obtain ⟨hwrites, behind, hbehind⟩ := writes_of_lexeme? h
  have hpos := length_pos_of_writes hwrites
  have hdrop : rest.drop (text.length - 1) = behind := by
    rw [← List.drop_succ_cons (a := c), Nat.sub_add_cancel hpos, ← hbehind, List.drop_left]
  rw [hdrop, hbehind]

/-- Tokens are written with parentheses, the sign of complement, letters
    and constants. -/
theorem sign_or_isWritable_of_writes (h : Writes kind text) :
    ∀ d ∈ text, d ∈ ['(', ')', '!'] ∨ Signal.isWritable d = true := by
  have hall : text.all (fun d => decide (d ∈ ['(', ')', '!']) || Signal.isWritable d) = true := by
    cases h with
    | connective op =>
        obtain ⟨f, inverting⟩ := op
        cases f <;> cases inverting <;> rfl
    | operand hc => simp [hc]
    | _ => rfl
  intro d hd
  have hsign := List.all_eq_true.mp hall d hd
  rwa [Bool.or_eq_true, decide_eq_true_eq] at hsign

/-- No written token contains white space. -/
theorem isBlank_of_writes (h : Writes kind text) : ∀ d ∈ text, Text.isBlank d = false := by
  intro d hd
  rcases sign_or_isWritable_of_writes h d hd with hsign | hwritable
  · have hall : ['(', ')', '!'].all (!Text.isBlank ·) = true := by decide
    have hblank := List.all_eq_true.mp hall d hsign
    rwa [Bool.not_eq_true'] at hblank
  · exact isBlank_of_isWritable hwritable

/-- **The tokens spell the text without its white space**, and each of
    them is well written. -/
theorem spelled_of_listFrom {ts : List Token} (h : listFrom position s = .ok ts) :
    (∀ t ∈ ts, Writes t.kind t.text) ∧ spelled ts = s.filter (!Text.isBlank ·) := by
  fun_induction listFrom position s generalizing ts with
  | case1 position =>
      cases h
      exact ⟨fun t ht => absurd ht List.not_mem_nil, rfl⟩
  | case2 position c rest hblank ih =>
      obtain ⟨hwrites, hspelled⟩ := ih h
      refine ⟨hwrites, ?_⟩
      rw [hspelled, List.filter_cons_of_neg (by simp [hblank])]
  | case3 position c rest hblank hnone => cases h
  | case4 position c rest hblank text kind hlexeme e herror ih => cases h
  | case5 position c rest hblank text kind hlexeme tokens htokens ih =>
      cases h
      obtain ⟨hwrites, hspelled⟩ := ih htokens
      have hw := (writes_of_lexeme? hlexeme).1
      refine ⟨fun t ht => ?_, ?_⟩
      · rcases List.mem_cons.mp ht with rfl | ht
        · exact hw
        · exact hwrites t ht
      · have htext : text.filter (!Text.isBlank ·) = text :=
          List.filter_eq_self.mpr fun d hd => by rw [isBlank_of_writes hw d hd]; rfl
        rw [spelled_cons, hspelled, ← append_of_lexeme? hlexeme, List.filter_append, htext]

/-- **Cutting drops white space only.**  The tokens are written forms of
    their kinds, and side by side they are the text without its white
    space. -/
theorem spelled_of_ofText {ts : List Token} (h : ofText s = .ok ts) :
    (∀ t ∈ ts, Writes t.kind t.text) ∧ spelled ts = s.filter (!Text.isBlank ·) :=
  spelled_of_listFrom h

/-- The tokens and the white space make up the length of a text. -/
theorem length_spelled_of_ofText {ts : List Token} (h : ofText s = .ok ts) :
    (spelled ts).length + s.countP Text.isBlank = s.length := by
  rw [(spelled_of_ofText h).2, ← List.countP_eq_length_filter, Nat.add_comm,
    List.length_eq_countP_add_countP Text.isBlank]
  simp

end SwitchLogic.Token
