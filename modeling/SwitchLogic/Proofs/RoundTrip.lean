import SwitchLogic.Expression
import SwitchLogic.Formula.Text
import SwitchLogic.Proofs.Canonical
import SwitchLogic.Proofs.Cutting
import SwitchLogic.Proofs.Recognition

/-! # Written formulas are read back

    The written form of a formula is in canonical form, is cut into
    tokens, and is read as the formula again.  Every operand is written
    at the place of a production: under a complement the complement
    itself, on the left of a connective the chain of its family, on the
    right the operands of that chain.  It is put in parentheses exactly
    when its own root belongs to a looser production, and that is all
    that the grammar asks for.

    The parentheses and the complements written around a point are the
    levels open there, so the formula is read back from the limit `nest`
    on and refused below it. -/

namespace SwitchLogic.Formula

/-- Induction over the formulas that can be written: every leaf is a
    letter or a constant. -/
theorem writable_induction {P : Formula → Prop}
    (leaf : ∀ c, Signal.isWritable c = true → P (.leaf c))
    (complement : ∀ a, P a → P (.not a))
    (connective : ∀ op a b, P a → P b → P (.binary op a b)) {e : Formula}
    (h : ∀ c ∈ e.leaves, Signal.isWritable c = true) : P e := by
  induction e with
  | leaf c => exact leaf c (h c (List.mem_singleton_self c))
  | not a ih => exact complement a (ih h)
  | binary op a b iha ihb =>
      have ha := iha fun c hc => h c (List.mem_append_left b.leaves hc)
      have hb := ihb fun c hc => h c (List.mem_append_right a.leaves hc)
      exact connective op a b ha hb

-- ── Productions and operands ───────────────────────────────────────

/-- The productions are told apart by their heights. -/
theorem height_injective {p q : Production} (h : p.height = q.height) : p = q := by
  rcases p with (_ | _ | _) | _ | _ | _ <;> rcases q with (_ | _ | _) | _ | _ | _ <;>
    first
      | rfl
      | exact absurd h (by decide)

/-- The tightest production has the least height. -/
theorem height_pos (p : Production) : 1 ≤ p.height := by
  rcases p with (_ | _ | _) | _ | _ | _ <;> decide

/-- What a production derives, every looser production derives as well. -/
theorem Derives.loosen {p q : Production} {ts : List Token} {e : Formula} {n : Nat}
    (h : Derives p ts e n) (hpq : p.height ≤ q.height) : Derives q ts e n := by
  -- from the looser production down to the tighter one, a height at a time
  suffices key : ∀ k q, q.height = p.height + k → Derives q ts e n from
    key _ q (Nat.add_sub_of_le hpq).symm
  intro k
  induction k with
  | zero =>
      intro q hq
      exact height_injective hq ▸ h
  | succ k ih =>
      intro q hq
      cases q with
      | chain f =>
          refine .single (ih (operandOf f) ?_)
          cases f <;> simp only [operandOf, Production.height] at hq ⊢ <;> omega
      | complement =>
          refine .suffixed (ih .suffixed ?_)
          simp only [Production.height] at hq ⊢
          omega
      | suffixed =>
          refine .primary (ih .primary ?_)
          simp only [Production.height] at hq ⊢
          omega
      | primary =>
          have hone : 1 = p.height + (k + 1) := hq
          have hpos := height_pos p
          omega

/-- What any production derives may stand in parentheses. -/
theorem Derives.enclosed {p : Production} {ts : List Token} {e : Formula} {n : Nat} {t u : Token}
    (h : Derives p ts e n) (ht : t.kind = .opening) (hu : u.kind = .closing) :
    Derives .primary (t :: (ts ++ [u])) e (n + 1) := by
  have hbody : Derives (.chain .disjunctive) ts e n := h.loosen (height_le p)
  exact hbody.parentheses ht hu

/-- The production to which the root of a formula belongs. -/
def outermost : Formula → Production
  | .leaf _ => .primary
  | .not _ => .complement
  | .binary op _ _ => .chain op.family

/-- The production of an operand of a connective. -/
def Side.production (op : Connective) : Side → Production
  | .left => .chain op.family
  | .right => operandOf op.family

/-- **Parentheses stand where the grammar needs them**: around an operand
    whose root belongs to a looser production than its place. -/
theorem needsParentheses_eq (op : Connective) (side : Side) (a : Formula) :
    a.needsParentheses op side
      = decide ((side.production op).height < a.outermost.height) := by
  obtain ⟨f, inverting⟩ := op
  cases a with
  | leaf c => cases side <;> cases f <;> rfl
  | not a => cases side <;> cases f <;> rfl
  | binary op a b =>
      obtain ⟨g, inverting'⟩ := op
      cases side <;> cases f <;> cases g <;> rfl

/-- Under a complement they stand around the connectives. -/
theorem isBinary_eq (a : Formula) :
    a.isBinary = decide (Production.complement.height < a.outermost.height) := by
  cases a with
  | leaf c => rfl
  | not a => rfl
  | binary op a b =>
      obtain ⟨f, inverting⟩ := op
      cases f <;> rfl

-- ── Levels of the written form ─────────────────────────────────────

/-- The levels that are open at the deepest point of the written form:
    the parentheses and complements around it. -/
def nest : Formula → Nat
  | .leaf _ => 0
  | .not a => a.nest + a.isBinary.toNat + 1
  | .binary op a b =>
      max (a.nest + (a.needsParentheses op .left).toNat)
        (b.nest + (b.needsParentheses op .right).toNat)

/-- Only connectives are put in parentheses. -/
theorem needsParentheses_le (op : Connective) (side : Side) (a : Formula) :
    (a.needsParentheses op side).toNat ≤ a.isBinary.toNat := by
  cases a with
  | binary op' a b => exact Bool.toNat_le _
  | _ => exact Nat.le_refl 0

/-- A connective opens no level itself, so below it one is to spare for
    its own parentheses. -/
theorem nest_lt_depth (e : Formula) : e.nest + e.isBinary.toNat < e.depth := by
  induction e with
  | leaf c => exact Nat.one_pos
  | not a ih =>
      show a.nest + a.isBinary.toNat + 1 < 1 + a.depth
      omega
  | binary op a b iha ihb =>
      have ha := needsParentheses_le op .left a
      have hb := needsParentheses_le op .right b
      show max (a.nest + (a.needsParentheses op .left).toNat)
        (b.nest + (b.needsParentheses op .right).toNat) + 1 < 1 + max a.depth b.depth
      omega

-- ── The tokens of the written form ─────────────────────────────────

/-- A formula whose written form is cut into a derivation of it. -/
def Rereads (e : Formula) : Prop :=
  ∀ position, ∃ ts, Token.Cuts position e.text ts ∧ Derives e.outermost ts e e.nest

/-- An operand is derived at its place, in parentheses where needed. -/
theorem Rereads.operand {a : Formula} (h : a.Rereads) (q : Production) (position : Nat) :
    ∃ ts, Token.Cuts position (operandText (decide (q.height < a.outermost.height)) a) ts ∧
      Derives q ts a (a.nest + (decide (q.height < a.outermost.height)).toNat) := by
  by_cases hlooser : q.height < a.outermost.height
  · obtain ⟨ts, hcuts, hder⟩ := h (position + 1)
    simp only [hlooser, decide_true, operandText, if_true, Bool.toNat_true]
    exact ⟨_, hcuts.parentheses, (hder.enclosed rfl rfl).loosen (height_pos q)⟩
  · obtain ⟨ts, hcuts, hder⟩ := h position
    simp only [hlooser, decide_false, operandText, Bool.false_eq_true, if_false,
      Bool.toNat_false]
    exact ⟨ts, hcuts, hder.loosen (Nat.le_of_not_lt hlooser)⟩

/-- **The written form writes the formula.** -/
theorem rereads_of_leaves {e : Formula} (h : ∀ c ∈ e.leaves, Signal.isWritable c = true) :
    e.Rereads := by
  refine writable_induction (fun c hc position => ?_) (fun a ih position => ?_)
    (fun op a b iha ihb position => ?_) h
  · exact ⟨_, .single (.operand hc), .operand rfl rfl⟩
  · obtain ⟨ts, hcuts, hder⟩ := ih.operand .complement (position + 1)
    rw [text_not, nest, isBinary_eq]
    exact ⟨_, hcuts.cons .bang (by simp), hder.complement rfl⟩
  · obtain ⟨us, hcutsa, hdera⟩ := iha.operand (.chain op.family) position
    obtain ⟨vs, hcutsb, hderb⟩ := ihb.operand (operandOf op.family) _
    rw [text_binary, nest, needsParentheses_eq, needsParentheses_eq]
    exact ⟨_, hcutsa.connective op hcutsb, hdera.connective rfl rfl hderb⟩

-- ── The canonical form of the written form ─────────────────────────

/-- Writing an operand adds parentheses at most. -/
theorem mem_operandText {parenthesised : Bool} {a : Formula} {c : Char}
    (h : c ∈ operandText parenthesised a) : c = '(' ∨ c ∈ a.text ∨ c = ')' := by
  cases parenthesised with
  | false => exact .inr (.inl h)
  | true =>
      rcases List.mem_cons.mp h with h | h
      · exact .inl h
      · rw [List.mem_append, List.mem_singleton] at h
        exact .inr h

/-- Keywords are written in plain characters. -/
theorem keyword_subset_plain (op : Connective) : op.keyword ⊆ Spelling.plain := by
  obtain ⟨f, inverting⟩ := op
  cases f <;> cases inverting <;> decide

/-- In parentheses, a plain operand is still plain. -/
theorem mem_plain_of_operandText {parenthesised : Bool} {a : Formula}
    (h : ∀ c ∈ a.text, c ∈ Spelling.plain) :
    ∀ c ∈ operandText parenthesised a, c ∈ Spelling.plain := by
  intro c hc
  rcases mem_operandText hc with rfl | hc | rfl
  · decide
  · exact h c hc
  · decide

/-- **The written form is plain**: nothing in it is a sign that gives way
    to a spelling, or has another lowercase form. -/
theorem mem_plain_of_text {e : Formula} (h : ∀ c ∈ e.leaves, Signal.isWritable c = true) :
    ∀ c ∈ e.text, c ∈ Spelling.plain := by
  refine writable_induction (P := fun e => ∀ c ∈ e.text, c ∈ Spelling.plain)
    (fun x hx c hc => ?_) (fun a ih c hc => ?_) (fun op a b iha ihb c hc => ?_) h
  · have hmem := Signal.isWritable_iff_mem.mp hx
    exact List.mem_append_right _ (List.mem_singleton.mp hc ▸ hmem)
  · rw [text_not] at hc
    rcases List.mem_cons.mp hc with rfl | hc
    · decide
    · exact mem_plain_of_operandText ih c hc
  · rw [text_binary, List.mem_append, List.mem_cons, List.mem_append, List.mem_cons] at hc
    rcases hc with hc | rfl | hc | rfl | hc
    · exact mem_plain_of_operandText iha c hc
    · decide
    · exact keyword_subset_plain op hc
    · decide
    · exact mem_plain_of_operandText ihb c hc

/-- In parentheses, a solid operand is still solid. -/
theorem solid_operandText {parenthesised : Bool} {a : Formula} (h : Text.Solid a.text) :
    Text.Solid (operandText parenthesised a) := by
  cases parenthesised with
  | false => exact h
  | true =>
      have hopening : Text.Solid ['('] := .single (by decide)
      have hclosing : Text.Solid [')'] := .single (by decide)
      exact hopening.append hclosing a.text

/-- The written form neither starts nor ends with white space. -/
theorem solid_text {e : Formula} (h : ∀ c ∈ e.leaves, Signal.isWritable c = true) :
    Text.Solid e.text := by
  refine writable_induction (P := fun e => Text.Solid e.text) (fun c hc => ?_)
    (fun a ih => ?_) (fun op a b iha ihb => ?_) h
  · exact .single (Token.isBlank_of_isWritable hc)
  · have hbang : Text.Solid ['!'] := .single (by decide)
    rw [text_not]
    exact hbang.append (solid_operandText ih) []
  · have hleft : Text.Solid (operandText (a.needsParentheses op .left) a) :=
      solid_operandText iha
    have hright : Text.Solid (operandText (b.needsParentheses op .right) b) :=
      solid_operandText ihb
    have hwhole := hleft.append hright (' ' :: (op.keyword ++ [' ']))
    rw [text_binary]
    rwa [List.cons_append, List.append_assoc] at hwhole

/-- The written form is canonical. -/
theorem canonical_text {e : Formula} (h : ∀ c ∈ e.leaves, Signal.isWritable c = true) :
    Spelling.canonical e.text = e.text :=
  Spelling.canonical_of_plain (mem_plain_of_text h) (solid_text h)

-- ── There and back ─────────────────────────────────────────────────

/-- The tokens of the written form, and the limits from which on they
    are read as the formula. -/
theorem exists_tokens {e : Formula} (h : ∀ c ∈ e.leaves, Signal.isWritable c = true) :
    ∃ ts, Token.ofText e.text = .ok ts ∧ ∀ limit, ofTokens limit ts
      = if e.nest ≤ limit then .ok e else .error (.nestingTooDeep limit) := by
  obtain ⟨ts, hcuts, hder⟩ := rereads_of_leaves h 0
  have hwhole : Derives (.chain .disjunctive) ts e e.nest := hder.loosen (height_le _)
  refine ⟨ts, hcuts.ofText, fun limit => ?_⟩
  split
  · rename_i hle
    exact ofTokens_of_derives hwhole hle
  · rename_i hlt
    exact ofTokens_of_derives_of_lt hwhole (Nat.lt_of_not_le hlt)

/-- Reading a written form either gives the formula back or reports the
    limit in the way: the length first, then the nesting. -/
theorem read_text {e : Formula} (h : ∀ c ∈ e.leaves, Signal.isWritable c = true)
    (limits : Limits) :
    Expression.read limits e.text
      = if e.text.length > limits.maxLength then
          .error (.inputTooLong e.text.length limits.maxLength)
        else if e.nest ≤ limits.maxDepth then .ok ⟨e.text, e.text, e.letters, e, limits⟩
        else .error (.nestingTooDeep limits.maxDepth) := by
  obtain ⟨ts, htokens, hread⟩ := exists_tokens h
  simp only [Expression.read, canonical_text h, htokens, hread]
  by_cases hnest : e.nest ≤ limits.maxDepth
  · simp only [hnest, if_true]
  · simp only [hnest, if_false]

/-- **Writing and reading are inverse.**  The written form of a formula
    over letters and constants is canonical and is cut into tokens that
    are read as the formula under every limit from `nest` on, and are
    refused for their nesting under every smaller one; and `nest` is
    below the depth of the formula.  So an expression gives the formula
    back exactly when its text and its nesting are within the limits. -/
theorem text_roundTrip (e : Formula) (h : ∀ c ∈ e.leaves, Signal.isWritable c = true) :
    Spelling.canonical e.text = e.text ∧
    (∃ ts, Token.ofText e.text = .ok ts ∧ ∀ limit, ofTokens limit ts
      = if e.nest ≤ limit then .ok e else .error (.nestingTooDeep limit)) ∧
    e.nest ≤ e.depth - 1 ∧
    ∀ limits, (∃ x, Expression.read limits e.text = .ok x ∧ x.formula = e) ↔
      e.text.length ≤ limits.maxLength ∧ e.nest ≤ limits.maxDepth := by
  have hdepth := nest_lt_depth e
  refine ⟨canonical_text h, exists_tokens h, by omega, fun limits => ?_⟩
  rw [read_text h]
  constructor
  · rintro ⟨x, hx, -⟩
    split at hx
    · cases hx
    · rename_i hlength
      split at hx
      · rename_i hnest
        exact ⟨Nat.le_of_not_lt hlength, hnest⟩
      · cases hx
  · rintro ⟨hlength, hnest⟩
    rw [if_neg (Nat.not_lt_of_le hlength), if_pos hnest]
    exact ⟨_, rfl, rfl⟩

/-- The formula `!(a or 1) xnor (b xor c)` opens two levels at once and is
    written with 24 characters. -/
theorem text_roundTrip_xnor :
    let e := xnor (.not (or (.leaf 'a') (.leaf '1'))) (xor (.leaf 'b') (.leaf 'c'))
    e.text = "!(a or 1) xnor (b xor c)".toList ∧
    (∃ x, Expression.read ⟨24, 2, 16, 65536⟩ e.text = .ok x ∧ x.formula = e) ∧
    ¬ ∃ x, Expression.read ⟨24, 1, 16, 65536⟩ e.text = .ok x ∧ x.formula = e := by
  intro e
  have hleaves : e.leaves.all Signal.isWritable = true := by decide
  have hread := (text_roundTrip e (List.all_eq_true.mp hleaves)).2.2.2
  exact ⟨by decide, (hread _).mpr (by decide), fun h => absurd ((hread _).mp h) (by decide)⟩

end SwitchLogic.Formula
