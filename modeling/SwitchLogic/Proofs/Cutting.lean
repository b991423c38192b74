import SwitchLogic.Lexing

/-! # Cutting written tokens

    A token that is written down is cut off again.  The text of most
    tokens is cut off whatever follows it; only an operand needs care,
    since a letter and the letters behind it may make up a keyword.  A
    text that starts with no letter keeps them apart.

    `Cuts` says that a text is cut into given tokens in front of every
    such continuation, and is closed under putting texts side by side. -/

namespace SwitchLogic.Token

variable {kind : TokenKind} {text rest s s' : List Char} {position : Nat}

/-- The texts that may write a token of a kind. -/
inductive Writes : TokenKind → List Char → Prop where
  | opening : Writes .opening ['(']
  | closing : Writes .closing [')']
  | bang : Writes .complement ['!']
  | word : Writes .complement ['n', 'o', 't']
  | connective (op : Connective) : Writes (.connective op) op.keyword
  | operand {c} : Signal.isWritable c = true → Writes .operand [c]

/-- A text that starts with no letter. -/
def Breaks (s : List Char) : Prop := ∀ c ∈ s.head?, Signal.isLetter c = false

/-- A text breaks where its first character is no letter. -/
theorem breaks_cons {c : Char} (h : Signal.isLetter c = false) (s : List Char) :
    Breaks (c :: s) :=
  fun _ hd => Option.some.inj hd ▸ h

-- ── One token ──────────────────────────────────────────────────────

/-- Every keyword starts with two letters. -/
theorem exists_of_mem_keywords : ∀ k ∈ keywords, ∃ a b s, k.1 = a :: b :: s ∧
    Signal.isLetter a = true ∧ Signal.isLetter b = true := by
  simp only [keywords, List.forall_mem_cons]
  refine ⟨?_, ?_, ?_, ?_, ?_, ?_, ?_, by simp⟩ <;> exact ⟨_, _, _, rfl, by decide, by decide⟩

/-- A character in front of such a text starts no keyword. -/
theorem keyword?_of_breaks (h : Breaks rest) (c : Char) : keyword? (c :: rest) = none := by
  rw [keyword?, List.find?_eq_none]
  intro k hk
  obtain ⟨a, b, s, htext, -, hb⟩ := exists_of_mem_keywords k hk
  rw [htext]
  cases rest with
  | nil => simp [List.isPrefixOf]
  | cons d rest =>
      have hd : Signal.isLetter d = false := h d rfl
      have hne : b ≠ d := by
        rintro rfl
        exact Bool.noConfusion (hb.symm.trans hd)
      simp [List.isPrefixOf, hne]

/-- The leaves of a written expression are not white space. -/
theorem isBlank_of_isWritable {c : Char} (hc : Signal.isWritable c = true) :
    Text.isBlank c = false := by
  have hall : ('0' :: '1' :: Signal.letters).all (!Text.isBlank ·) = true := by decide
  have hblank := List.all_eq_true.mp hall c (Signal.isWritable_iff_mem.mp hc)
  rwa [Bool.not_eq_true'] at hblank

/-- A letter starts the keyword that is written there, or else stands
    alone. -/
theorem lexeme?_of_isLetter {c : Char} (hc : Signal.isLetter c = true) (rest : List Char) :
    lexeme? c rest = some ((keyword? (c :: rest)).getD ([c], .operand)) := by
  have hsign : ∀ d ∉ Signal.letters, c ≠ d :=
    fun d hd heq => hd (heq ▸ Signal.isLetter_iff_mem.mp hc)
  rw [lexeme?, if_neg (hsign '(' (by decide)), if_neg (hsign ')' (by decide)),
    if_neg (hsign '!' (by decide)), if_pos hc]
  cases keyword? (c :: rest) <;> rfl

/-- A leaf that starts no keyword is an operand. -/
theorem lexeme?_of_isWritable {c : Char} (hc : Signal.isWritable c = true)
    (h : keyword? (c :: rest) = none) : lexeme? c rest = some ([c], .operand) := by
  rcases List.mem_cons.mp (Signal.isWritable_iff_mem.mp hc) with rfl | hc
  · rfl
  rcases List.mem_cons.mp hc with rfl | hc
  · rfl
  rw [lexeme?_of_isLetter (Signal.isLetter_iff_mem.mpr hc), h]
  rfl

/-- The first character of a written token starts that token. -/
theorem lexeme?_of_writes (h : Writes kind text) (hbreaks : kind = .operand → Breaks rest) :
    ∃ c cs, text = c :: cs ∧ Text.isBlank c = false ∧
      lexeme? c (cs ++ rest) = some (text, kind) := by
  cases h with
  | opening => exact ⟨_, _, rfl, by decide, rfl⟩
  | closing => exact ⟨_, _, rfl, by decide, rfl⟩
  | bang => exact ⟨_, _, rfl, by decide, rfl⟩
  | word => exact ⟨_, _, rfl, by decide, rfl⟩
  | connective op =>
      obtain ⟨f, inverting⟩ := op
      cases f <;> cases inverting <;> exact ⟨_, _, rfl, by decide, rfl⟩
  | @operand c hc =>
      have hkeyword := keyword?_of_breaks (hbreaks rfl) c
      exact ⟨c, [], rfl, isBlank_of_isWritable hc, lexeme?_of_isWritable hc hkeyword⟩

/-- **A written token is cut off.** -/
theorem listFrom_of_writes (h : Writes kind text) (hbreaks : kind = .operand → Breaks rest) :
    listFrom position (text ++ rest)
      = (listFrom (position + text.length) rest).map (⟨kind, text, position⟩ :: ·) := by
  obtain ⟨c, cs, htext, hblank, hlexeme⟩ := lexeme?_of_writes h hbreaks
  have hrest : (cs ++ rest).drop (text.length - 1) = rest := by
    rw [htext, List.length_cons, Nat.add_sub_cancel, List.drop_left]
  conv =>
    lhs
    rw [htext, List.cons_append, listFrom]
  simp only [hblank, Bool.false_eq_true, if_false, hlexeme, hrest]
  cases listFrom (position + text.length) rest <;> rfl

/-- White space is dropped, and counted in the positions behind it. -/
theorem listFrom_blank {c : Char} (h : Text.isBlank c = true) :
    listFrom position (c :: rest) = listFrom (position + 1) rest := by
  rw [listFrom, if_pos h]

-- ── Texts side by side ─────────────────────────────────────────────

/-- A text that is cut into given tokens, whatever follows it without a
    letter at its start. -/
def Cuts (position : Nat) (s : List Char) (ts : List Token) : Prop :=
  ∀ rest, Breaks rest →
    listFrom position (s ++ rest) = (listFrom (position + s.length) rest).map (ts ++ ·)

/-- Two texts that break do so side by side. -/
theorem Breaks.append (h : Breaks s) (hrest : Breaks rest) : Breaks (s ++ rest) := by
  cases s with
  | nil => exact hrest
  | cons c s => exact fun d hd => h d hd

/-- A text that is cut into tokens in front of every continuation is cut
    into them at the end of the text. -/
theorem Cuts.ofText {ts : List Token} (h : Cuts 0 s ts) : ofText s = .ok ts := by
  have hcut := h [] fun c hc => nomatch hc
  rw [List.append_nil, listFrom] at hcut
  rw [Token.ofText, hcut]
  simp only [Except.map, List.append_nil]

/-- **Side by side**, two texts are cut into the tokens of both, if the
    second one keeps the letters at its start from running on. -/
theorem Cuts.append {ts ts' : List Token} (h : Cuts position s ts)
    (h' : Cuts (position + s.length) s' ts') (hbreaks : Breaks s') :
    Cuts position (s ++ s') (ts ++ ts') := by
  intro rest hrest
  rw [List.append_assoc, h _ (hbreaks.append hrest), h' rest hrest, List.length_append,
    Nat.add_assoc]
  cases listFrom (position + (s.length + s'.length)) rest with
  | error e => rfl
  | ok us => simp only [Except.map, List.append_assoc]

/-- A written token is cut into itself. -/
theorem Cuts.single (h : Writes kind text) : Cuts position text [⟨kind, text, position⟩] :=
  fun _ hrest => listFrom_of_writes h fun _ => hrest

/-- In front of a text stands a token that needs nothing to end it. -/
theorem Cuts.cons {ts : List Token} (h : Cuts (position + text.length) s ts)
    (hwrites : Writes kind text) (hkind : kind ≠ .operand) :
    Cuts position (text ++ s) (⟨kind, text, position⟩ :: ts) := by
  intro rest hrest
  rw [List.append_assoc, listFrom_of_writes hwrites fun hoperand => absurd hoperand hkind,
    h rest hrest, List.length_append, Nat.add_assoc]
  cases listFrom (position + (text.length + s.length)) rest <;> rfl

/-- White space in front of a text adds no token. -/
theorem Cuts.blank {c : Char} {ts : List Token} (h : Cuts (position + 1) s ts)
    (hc : Text.isBlank c = true) : Cuts position (c :: s) ts := by
  intro rest hrest
  rw [List.cons_append, listFrom_blank hc, h rest hrest, List.length_cons, Nat.add_assoc,
    Nat.add_comm 1]

/-- A text in parentheses is cut into its tokens and the parentheses. -/
theorem Cuts.parentheses {ts : List Token} (h : Cuts (position + 1) s ts) :
    Cuts position ('(' :: (s ++ [')']))
      (⟨.opening, ['('], position⟩ ::
        (ts ++ [⟨.closing, [')'], position + 1 + s.length⟩])) := by
  have hclosing : Breaks [')'] := breaks_cons rfl []
  have hbody := h.append (.single .closing) hclosing
  exact hbody.cons .opening (by simp)

/-- Two operands with a spaced connective between them. -/
theorem Cuts.connective {us vs : List Token} (op : Connective) (h : Cuts position s us)
    (h' : Cuts (position + s.length + 1 + op.keyword.length + 1) s' vs) :
    Cuts position (s ++ ' ' :: (op.keyword ++ ' ' :: s'))
      (us ++ ⟨.connective op, op.keyword, position + s.length + 1⟩ :: vs) := by
  have hspace : Breaks (' ' :: (op.keyword ++ ' ' :: s')) := breaks_cons rfl _
  have hright := (h'.blank (c := ' ') rfl).cons (.connective op) (by simp)
  exact h.append (hright.blank rfl) hspace

end SwitchLogic.Token
