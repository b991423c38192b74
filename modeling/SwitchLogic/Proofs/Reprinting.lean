import SwitchLogic.Proofs.RoundTrip
import SwitchLogic.Proofs.Spelled

/-! # Writing what was read

    The written form of an expression that was read is an expression
    again, and the same one, unless it exceeds a limit that the text
    kept.  Two things can make it larger than the text.  It has spaces
    around every connective, where a text may do without; and it has all
    complements in front of their operands, where they open levels, while
    a text may have them behind.  In every other respect it is no larger:
    its parentheses all stand in the text already, and no keyword is
    longer than in the text.

    Both bounds go along the derivation of the tokens.  A formula derived
    at the place of a tighter production than its own has parentheses
    around it in the tokens, and it is there that the written form may
    need some. -/

namespace SwitchLogic

-- ── Complements behind their operands ──────────────────────────────

namespace Token

/-- The number of complements that stand behind their operand; `complete`
    says whether the tokens before are such an operand. -/
def suffixCount (complete : Bool) : List Token → Nat
  | [] => 0
  | t :: ts =>
      if complete && t.isBang then suffixCount true ts + 1
      else suffixCount (t.kind = .operand || t.kind = .closing) ts

theorem suffixCount_bang {t : Token} (h : t.isBang = true) (ts : List Token) :
    suffixCount true (t :: ts) = suffixCount true ts + 1 := by
  simp [suffixCount, h]

/-- An operand or a closing parenthesis completes an operand. -/
theorem suffixCount_ending {t : Token} (h : t.kind = .operand ∨ t.kind = .closing)
    (complete : Bool) (ts : List Token) :
    suffixCount complete (t :: ts) = suffixCount true ts := by
  have hbang : t.isBang = false := Formula.not_isBang_of_kind (by rcases h with h | h <;> simp [h])
  rw [suffixCount, hbang, Bool.and_false]
  rcases h with h | h <;> simp [h]

/-- A token in front of an operand. -/
theorem suffixCount_starting {t : Token} (h : t.kind = .opening ∨ t.kind = .complement)
    (ts : List Token) : suffixCount false (t :: ts) = suffixCount false ts := by
  rw [suffixCount, Bool.false_and]
  rcases h with h | h <;> simp [h]

/-- A token between two operands. -/
theorem suffixCount_connective {t : Token} {op : Connective} (h : t.kind = .connective op)
    (ts : List Token) : suffixCount true (t :: ts) = suffixCount false ts := by
  have hbang : t.isBang = false := Formula.not_isBang_of_kind (by simp [h])
  rw [suffixCount, hbang, Bool.and_false]
  simp [h]

end Token

namespace Formula

open Token

variable {p : Production} {ts : List Token} {e : Formula} {n : Nat}

/-- Behind a derivation stands a complete operand. -/
theorem suffixCount_of_derives (h : Derives p ts e n) (rest : List Token) :
    suffixCount false (ts ++ rest) = suffixCount false ts + suffixCount true rest := by
  induction h generalizing rest with
  | @operand t c cs hkind _ =>
      rw [List.singleton_append, suffixCount_ending (.inl hkind), suffixCount_ending (.inl hkind),
        suffixCount, Nat.zero_add]
  | @parentheses t ts u e n hopen _ hclose ih =>
      rw [List.cons_append, List.append_assoc, suffixCount_starting (.inl hopen),
        suffixCount_starting (.inl hopen), ih, ih, List.singleton_append,
        suffixCount_ending (.inr hclose), suffixCount_ending (.inr hclose), suffixCount,
        Nat.add_zero]
  | primary _ ih => exact ih rest
  | @bang ts t e n _ ht ih =>
      rw [List.append_assoc, ih, ih, List.singleton_append, suffixCount_bang ht,
        suffixCount_bang ht, suffixCount]
      omega
  | suffixed _ ih => exact ih rest
  | @complement t ts e n hkind _ ih =>
      rw [List.cons_append, suffixCount_starting (.inr hkind),
        suffixCount_starting (.inr hkind), ih]
  | single _ ih => exact ih rest
  | @connective f us t vs op a b m n _ hkind _ _ iha ihb =>
      rw [List.append_assoc, iha, iha, List.cons_append, suffixCount_connective hkind,
        suffixCount_connective hkind, ihb, Nat.add_assoc]

-- ── What is read as an operand ─────────────────────────────────────

/-- Only letters and constants are read as operands. -/
theorem isWritable_of_derives (h : Derives p ts e n) (hwrites : ∀ t ∈ ts, Writes t.kind t.text) :
    ∀ c ∈ e.leaves, Signal.isWritable c = true := by
  induction h with
  | @operand t c cs hkind htext =>
      obtain ⟨d, hd, hwritable⟩ := text_of_writes_operand (hkind ▸ hwrites t (by simp))
      obtain ⟨rfl, -⟩ := List.cons.inj (htext.symm.trans hd)
      intro _ hleaf
      exact List.mem_singleton.mp hleaf ▸ hwritable
  | parentheses _ _ _ ih => exact ih fun v hv => hwrites v (by simp [hv])
  | primary _ ih => exact ih hwrites
  | bang _ _ ih => exact ih fun v hv => hwrites v (by simp [hv])
  | suffixed _ ih => exact ih hwrites
  | complement _ _ ih => exact ih fun v hv => hwrites v (by simp [hv])
  | single _ ih => exact ih hwrites
  | connective _ _ _ _ iha ihb =>
      intro c hleaf
      rcases List.mem_append.mp hleaf with hleaf | hleaf
      · exact iha (fun v hv => hwrites v (by simp [hv])) c hleaf
      · exact ihb (fun v hv => hwrites v (by simp [hv])) c hleaf

-- ── Places that need parentheses ───────────────────────────────────

/-- Whether the written form has parentheses around a formula at the
    place of a production.  Leading complements need none anywhere, so
    the tightest place that matters is that of a complement. -/
def Production.parenthesises (p : Production) (e : Formula) : Bool :=
  decide (max p.height Production.complement.height < e.outermost.height)

/-- A leaf needs no parentheses anywhere. -/
theorem parenthesises_leaf (p : Production) (c : Char) : p.parenthesises (.leaf c) = false := by
  have hle : (leaf c).outermost.height ≤ Production.complement.height := height_pos .complement
  exact decide_eq_false (Nat.not_lt_of_le (Nat.le_trans hle (Nat.le_max_right p.height _)))

theorem parenthesises_not (p : Production) (a : Formula) : p.parenthesises (.not a) = false :=
  decide_eq_false (Nat.not_lt_of_le (Nat.le_max_right p.height _))

/-- A formula needs none at the place of its own production. -/
theorem parenthesises_binary (op : Connective) (a b : Formula) :
    (Production.chain op.family).parenthesises (.binary op a b) = false :=
  decide_eq_false (Nat.not_lt_of_le (Nat.le_max_left _ _))

/-- Where a complement fits, a formula of a looser production needs
    parentheses. -/
theorem parenthesises_of_le (h : Production.complement.height ≤ p.height) (e : Formula) :
    p.parenthesises e = decide (p.height < e.outermost.height) := by
  rw [Production.parenthesises, Nat.max_eq_left h]

/-- Where nothing looser than a complement fits, it is connectives that
    need parentheses. -/
theorem parenthesises_tight (h : p.height ≤ Production.complement.height) (e : Formula) :
    p.parenthesises e = e.isBinary := by
  rw [Production.parenthesises, Nat.max_eq_right h, isBinary_eq]

/-- The left operand of a connective stands at the place of its chain. -/
theorem parenthesises_left (op : Connective) (a : Formula) :
    (Production.chain op.family).parenthesises a = a.needsParentheses op .left := by
  have hle : Production.complement.height ≤ (Production.chain op.family).height := by
    cases op.family <;> decide
  rw [parenthesises_of_le hle, needsParentheses_eq]
  rfl

/-- The right operand stands at the place of the operands of the chain. -/
theorem parenthesises_right (op : Connective) (b : Formula) :
    (operandOf op.family).parenthesises b = b.needsParentheses op .right := by
  have hle : Production.complement.height ≤ (operandOf op.family).height := by
    cases op.family <;> decide
  rw [parenthesises_of_le hle, needsParentheses_eq]
  rfl

/-- A looser place needs parentheses no sooner. -/
theorem parenthesises_le {q : Production} (h : p.height ≤ q.height) (e : Formula) :
    (q.parenthesises e).toNat ≤ (p.parenthesises e).toNat := by
  cases hq : q.parenthesises e with
  | false => exact Nat.zero_le _
  | true =>
      have hlt := of_decide_eq_true hq
      have hp : p.parenthesises e = true := decide_eq_true (by omega)
      exact hp ▸ Nat.le_refl _

-- ── The nesting of the written form ────────────────────────────────

/-- **The written form nests no deeper** than the tokens, but for the
    complements that stand behind their operands. -/
theorem nest_le_of_derives (h : Derives p ts e n) :
    e.nest + (p.parenthesises e).toNat ≤ n + suffixCount false ts := by
  induction h with
  | operand _ _ =>
      rw [parenthesises_leaf]
      exact Nat.zero_le _
  | @parentheses t ts u e n hopen h hclose ih =>
      have hcount : suffixCount false (t :: (ts ++ [u])) = suffixCount false ts := by
        rw [suffixCount_starting (.inl hopen), suffixCount_of_derives h,
          suffixCount_ending (.inr hclose)]
        rfl
      -- the tokens open a level here, whether or not the written form needs the parentheses
      have hone := Bool.toNat_le (Production.primary.parenthesises e)
      rw [hcount]
      omega
  | @primary ts e n _ ih =>
      have hle := parenthesises_le (p := .primary) (q := .suffixed) (by decide) e
      omega
  | @bang ts t e n h ht ih =>
      -- written in front, the sign opens a level that the tokens did not open
      have hcount : suffixCount false (ts ++ [t]) = suffixCount false ts + 1 := by
        rw [suffixCount_of_derives h, suffixCount_bang ht]
        rfl
      rw [parenthesises_tight (by decide)] at ih
      rw [parenthesises_not, hcount, nest]
      simp only [Bool.toNat_false]
      omega
  | @suffixed ts e n _ ih =>
      have hle := parenthesises_le (p := .suffixed) (q := .complement) (by decide) e
      omega
  | @complement t ts e n hkind _ ih =>
      have hcount : suffixCount false (t :: ts) = suffixCount false ts :=
        suffixCount_starting (.inr hkind) ts
      rw [parenthesises_tight (by decide)] at ih
      rw [parenthesises_not, hcount, nest]
      simp only [Bool.toNat_false]
      omega
  | @single f ts e n _ ih =>
      have hle := parenthesises_le (Nat.le_of_lt (height_operandOf f)) e
      omega
  | @connective f us t vs op a b m n h hkind hfamily _ iha ihb =>
      have hcount := suffixCount_of_derives h (t :: vs)
      rw [suffixCount_connective hkind] at hcount
      subst hfamily
      rw [parenthesises_left] at iha
      rw [parenthesises_right] at ihb
      rw [parenthesises_binary, hcount, nest]
      simp only [Bool.toNat_false]
      omega

-- ── The length of the written form ────────────────────────────────

/-- The number of binary connectives. -/
def connectiveCount : Formula → Nat
  | .leaf _ => 0
  | .not a => a.connectiveCount
  | .binary _ a b => a.connectiveCount + b.connectiveCount + 1

/-- Parentheses are two characters long. -/
theorem length_operandText (parenthesised : Bool) (e : Formula) :
    (operandText parenthesised e).length = e.text.length + 2 * parenthesised.toNat := by
  cases parenthesised with
  | false => rfl
  | true => simp [operandText]

/-- **The written form is no longer** than what the tokens spell, but for
    the spaces around connectives. -/
theorem length_text_le_of_derives (h : Derives p ts e n)
    (hwrites : ∀ t ∈ ts, Writes t.kind t.text) :
    e.text.length + 2 * (p.parenthesises e).toNat
      ≤ (spelled ts).length + 2 * e.connectiveCount := by
  induction h with
  | @operand t c cs _ htext =>
      rw [parenthesises_leaf]
      simp [spelled, htext]
      omega
  | @parentheses t ts u e n _ _ _ ih =>
      have hbody := ih fun v hv => hwrites v (by simp [hv])
      have hfirst := length_pos_of_writes (hwrites t (by simp))
      have hlast := length_pos_of_writes (hwrites u (by simp))
      -- two tokens pay for the parentheses that the written form may keep
      have hone := Bool.toNat_le (Production.primary.parenthesises e)
      rw [spelled_cons, spelled_append, List.length_append, List.length_append, spelled_cons,
        List.length_append]
      omega
  | @primary ts e n _ ih =>
      have hle := parenthesises_le (p := .primary) (q := .suffixed) (by decide) e
      have hoperand := ih hwrites
      omega
  | @bang ts t e n _ _ ih =>
      have hoperand := ih fun v hv => hwrites v (List.mem_append_left [t] hv)
      have hsign := length_pos_of_writes (hwrites t (by simp))
      rw [parenthesises_tight (by decide)] at hoperand
      rw [parenthesises_not, text_not, List.length_cons, length_operandText,
        spelled_append, List.length_append, spelled_cons, List.length_append, connectiveCount]
      simp only [Bool.toNat_false]
      omega
  | @suffixed ts e n _ ih =>
      have hle := parenthesises_le (p := .suffixed) (q := .complement) (by decide) e
      have hoperand := ih hwrites
      omega
  | @complement t ts e n _ _ ih =>
      have hoperand := ih fun v hv => hwrites v (List.mem_cons_of_mem t hv)
      have hsign := length_pos_of_writes (hwrites t (by simp))
      rw [parenthesises_tight (by decide)] at hoperand
      rw [parenthesises_not, text_not, List.length_cons, length_operandText,
        spelled_cons, List.length_append, connectiveCount]
      simp only [Bool.toNat_false]
      omega
  | @single f ts e n _ ih =>
      have hle := parenthesises_le (Nat.le_of_lt (height_operandOf f)) e
      have hoperand := ih hwrites
      omega
  | @connective f us t vs op a b m n _ hkind hfamily _ iha ihb =>
      have hleft := iha fun v hv => hwrites v (List.mem_append_left _ hv)
      have hright := ihb fun v hv => hwrites v (by simp [hv])
      -- the keyword is as long as its token, and the two spaces are those of the bound
      have hkeyword := text_of_writes_connective (hwrites t (by simp)) hkind
      subst hfamily
      rw [parenthesises_left] at hleft
      rw [parenthesises_right] at hright
      rw [parenthesises_binary, text_binary, spelled_append, spelled_cons,
        hkeyword, connectiveCount]
      simp only [List.length_append, List.length_cons, length_operandText, Bool.toNat_false]
      omega

end Formula

-- ── Texts that were read ───────────────────────────────────────────

namespace Expression

variable {limits : Limits} {source : List Char} {x : Expression}

/-- What is read was short enough, was cut into tokens, and was derived
    from them. -/
theorem exists_tokens_of_read (h : read limits source = .ok x) :
    (Spelling.canonical source).length ≤ limits.maxLength ∧
    x = ⟨source, Spelling.canonical source, x.formula.letters, x.formula, limits⟩ ∧
    ∃ tokens, Token.ofText (Spelling.canonical source) = .ok tokens ∧
      Formula.ofTokens limits.maxDepth tokens = .ok x.formula := by
  simp only [read] at h
  split at h
  · cases h
  · rename_i hlength
    split at h
    · cases h
    · rename_i tokens htokens
      split at h
      · cases h
      · rename_i e hformula
        cases h
        exact ⟨Nat.le_of_not_lt hlength, rfl, tokens, htokens, hformula⟩

/-- **What was read, written again.**  The written form of an expression
    reads as the same expression, unless it exceeds a limit that the text
    was within.  It is longer than the canonical form of the text by two
    characters for every connective, at most, less the white space that
    is there; and it nests deeper than the limit on the levels by the
    complements that stand behind their operands, at most.  So it exceeds
    no limit if the text has two blanks for every connective and no such
    complement. -/
theorem read_text_of_read (hx : read limits source = .ok x) :
    ∃ tokens, Token.ofText (Spelling.canonical source) = .ok tokens ∧
      read limits x.formula.text
        = (if x.formula.text.length > limits.maxLength then
            .error (.inputTooLong x.formula.text.length limits.maxLength)
          else if x.formula.nest ≤ limits.maxDepth then
            .ok { x with source := x.formula.text, canonical := x.formula.text }
          else .error (.nestingTooDeep limits.maxDepth)) ∧
      x.formula.text.length + (Spelling.canonical source).countP Text.isBlank
        ≤ (Spelling.canonical source).length + 2 * x.formula.connectiveCount ∧
      x.formula.nest ≤ limits.maxDepth + Token.suffixCount false tokens ∧
      (2 * x.formula.connectiveCount ≤ (Spelling.canonical source).countP Text.isBlank →
        Token.suffixCount false tokens = 0 →
        read limits x.formula.text
          = .ok { x with source := x.formula.text, canonical := x.formula.text }) := by
  obtain ⟨hlength, hfields, tokens, htokens, hformula⟩ := exists_tokens_of_read hx
  have hwrites := (Token.spelled_of_ofText htokens).1
  obtain ⟨n, hn, hder⟩ := Formula.derives_of_ofTokens hformula
  have hread : read limits x.formula.text = _ :=
    Formula.read_text (Formula.isWritable_of_derives hder hwrites) limits
  have hagain : Expression.mk x.formula.text x.formula.text x.formula.letters x.formula limits
      = { x with source := x.formula.text, canonical := x.formula.text } := by
    rw [hfields]
  rw [hagain] at hread
  have htext : x.formula.text.length + (Spelling.canonical source).countP Text.isBlank
      ≤ (Spelling.canonical source).length + 2 * x.formula.connectiveCount := by
    have hbound := Formula.length_text_le_of_derives hder hwrites
    have hblanks := Token.length_spelled_of_ofText htokens
    omega
  have hnest : x.formula.nest ≤ limits.maxDepth + Token.suffixCount false tokens := by
    have hbound := Formula.nest_le_of_derives hder
    omega
  refine ⟨tokens, htokens, hread, htext, hnest, fun hspaced hleading => ?_⟩
  rw [hread, if_neg (by omega), if_pos (by omega)]

/-- A reading that gives a formula gives an expression with that formula. -/
theorem exists_read {e : Formula} (h : (read limits source).toOption.map formula = some e) :
    ∃ x, read limits source = .ok x ∧ x.formula = e := by
  cases hread : read limits source with
  | error err =>
      rw [hread] at h
      cases h
  | ok x =>
      rw [hread] at h
      exact ⟨x, rfl, Option.some.inj h⟩

/-- The text `(A')+not B` has a complement behind its operand, yet its
    parentheses make up for the level which that opens when written in
    front. -/
theorem read_text_of_read_or :
    let limits : Limits := { Limits.standard with maxLength := 13, maxDepth := 1 }
    let e := Formula.or (.not (.leaf 'a')) (.not (.leaf 'b'))
    ∃ x, read limits "(A\x27)+not B".toList = .ok x ∧ x.formula = e ∧
      read limits "!a or !b".toList
        = .ok { x with source := "!a or !b".toList, canonical := "!a or !b".toList } := by
  intro limits e
  obtain ⟨x, hx, hformula⟩ : ∃ x, read limits "(A\x27)+not B".toList = .ok x ∧ x.formula = e :=
    exists_read (by decide +kernel)
  obtain ⟨tokens, -, hread, -⟩ := read_text_of_read hx
  have htext : x.formula.text = "!a or !b".toList := by
    rw [hformula]
    decide
  have hnest : x.formula.nest ≤ limits.maxDepth := by
    rw [hformula]
    decide
  rw [htext, if_neg (by decide), if_pos hnest] at hread
  exact ⟨x, hx, hformula, hread⟩

/-- A text without spaces may be within a limit that its written form
    exceeds, and so may a text with a complement behind its operand. -/
theorem read_text_refused :
    (∃ x, read { Limits.standard with maxLength := 5 } "aandb".toList = .ok x ∧
      read { Limits.standard with maxLength := 5 } x.formula.text
        = .error (.inputTooLong 7 5)) ∧
    ∃ x, read { Limits.standard with maxDepth := 0 } "a!".toList = .ok x ∧
      read { Limits.standard with maxDepth := 0 } x.formula.text
        = .error (.nestingTooDeep 0) := by
  constructor
  · obtain ⟨x, hx, hformula⟩ : ∃ x, read { Limits.standard with maxLength := 5 } "aandb".toList
        = .ok x ∧ x.formula = .and (.leaf 'a') (.leaf 'b') :=
      exists_read (by decide +kernel)
    refine ⟨x, hx, ?_⟩
    rw [hformula]
    rfl
  · obtain ⟨x, hx, hformula⟩ : ∃ x, read { Limits.standard with maxDepth := 0 } "a!".toList
        = .ok x ∧ x.formula = .not (.leaf 'a') :=
      exists_read (by decide +kernel)
    refine ⟨x, hx, ?_⟩
    rw [hformula, Formula.read_text (List.all_eq_true.mp (by decide))]
    rfl

end Expression

end SwitchLogic
