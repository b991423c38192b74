import SwitchLogic.Proofs.Reading

/-! # The grammar of formulas

    The grammar says which lists of tokens write which formula, without
    saying how to find out.  A derivation also knows how many levels it
    opens at its deepest point: one for each pair of parentheses and for
    each leading complement around that point.

    What a production reads, it derives, and behind it stands no token
    that the production could have gone on with.  Chains are where the
    two sides differ in shape: a derivation of a chain grows at its right
    end, while reading extends a formula that was read before.  So what
    is shown of the rest of a chain speaks of a part of the chain that
    was derived already, and of reading as if it had begun in front of
    that part. -/

namespace SwitchLogic.Formula

/-- **The grammar.**  `Derives p ts e n` says that production `p` derives
    the tokens `ts` as the formula `e`, with `n` levels open at the
    deepest point. -/
inductive Derives : Production → List Token → Formula → Nat → Prop where
  | operand {t c cs} : t.kind = .operand → t.text = c :: cs → Derives .primary [t] (.leaf c) 0
  | parentheses {t ts u e n} : t.kind = .opening → Derives (.chain .disjunctive) ts e n →
      u.kind = .closing → Derives .primary (t :: (ts ++ [u])) e (n + 1)
  | primary {ts e n} : Derives .primary ts e n → Derives .suffixed ts e n
  | bang {ts t e n} : Derives .suffixed ts e n → t.isBang = true →
      Derives .suffixed (ts ++ [t]) (.not e) n
  | suffixed {ts e n} : Derives .suffixed ts e n → Derives .complement ts e n
  | complement {t ts e n} : t.kind = .complement → Derives .complement ts e n →
      Derives .complement (t :: ts) (.not e) (n + 1)
  | single {f ts e n} : Derives (operandOf f) ts e n → Derives (.chain f) ts e n
  | connective {f us t vs op a b m n} : Derives (.chain f) us a m → t.kind = .connective op →
      op.family = f → Derives (operandOf f) vs b n →
      Derives (.chain f) (us ++ t :: vs) (.binary op a b) (max m n)

variable {limit : Nat}

-- ── Tokens that continue a production ──────────────────────────────

/-- Whether a production may go on with a token. -/
def Production.continues : Production → Token → Bool
  | .chain f, t =>
      t.isBang || match t.kind with
        | .connective op => decide (f.rank ≤ op.family.rank)
        | _ => false
  | .complement, t => t.isBang
  | .suffixed, t => t.isBang
  | .primary, _ => false

/-- Whether a production ends in front of a list of tokens. -/
def Stops (p : Production) (ts : List Token) : Prop := ∀ t ∈ ts.head?, p.continues t = false

theorem stops_nil (p : Production) : Stops p [] := fun _ ht => nomatch ht

/-- The next token alone decides whether a production ends. -/
theorem stops_cons {p : Production} {t : Token} {ts : List Token} :
    Stops p (t :: ts) ↔ p.continues t = false := by
  simp [Stops]

/-- Only a complement can trail its operand. -/
theorem not_isBang_of_kind {t : Token} (h : t.kind ≠ .complement) : t.isBang = false := by
  simp [Token.isBang, h]

/-- A chain goes on with the connectives of its family. -/
theorem connective?_eq_some {f : Family} {t : Token} {op : Connective} :
    connective? f t = some op ↔ t.kind = .connective op ∧ op.family = f := by
  unfold connective?
  split
  · rename_i op' h
    split
    · rename_i hf
      simp only [h, Option.some.injEq, TokenKind.connective.injEq]
      constructor
      · rintro rfl
        exact ⟨rfl, hf⟩
      · exact fun h => h.1
    · rename_i hf
      simp only [h, TokenKind.connective.injEq, reduceCtorEq, false_iff]
      rintro ⟨rfl, h⟩
      exact hf h
  · rename_i h
    constructor
    · intro h'
      cases h'
    · rintro ⟨h', -⟩
      exact absurd h' (h op)

/-- A chain goes on with what its operands go on with, and with the
    connectives of its own family. -/
theorem continues_chain (f : Family) (t : Token) :
    (Production.chain f).continues t
      = ((operandOf f).continues t || (connective? f t).isSome) := by
  cases hkind : t.kind with
  | connective op =>
      obtain ⟨g, inverting⟩ := op
      cases f <;> cases g <;>
        simp [Production.continues, connective?, operandOf, hkind, Family.rank]
  | _ => cases f <;> simp [Production.continues, connective?, operandOf, hkind]

/-- A chain ends where its last operand does, and no connective of its own
    follows. -/
theorem stops_chain {f : Family} {ts : List Token} :
    Stops (.chain f) ts ↔
      Stops (operandOf f) ts ∧ ∀ t ∈ ts.head?, connective? f t = none := by
  cases ts with
  | nil => simp [Stops]
  | cons t ts => simp [stops_cons, continues_chain]

/-- The operands of a chain end in front of its connectives. -/
theorem stops_operandOf {f : Family} {t : Token} {op : Connective}
    (h : connective? f t = some op) (ts : List Token) : Stops (operandOf f) (t :: ts) := by
  obtain ⟨hkind, rfl⟩ := connective?_eq_some.mp h
  have hbang : t.isBang = false := not_isBang_of_kind (by simp [hkind])
  rw [stops_cons]
  obtain ⟨g, inverting⟩ := op
  cases g <;> simp [operandOf, Production.continues, hbang, hkind, Family.rank]

/-- Every production ends in front of a closing parenthesis. -/
theorem stops_closing {u : Token} (h : u.kind = .closing) (p : Production) (ts : List Token) :
    Stops p (u :: ts) := by
  have hbang : u.isBang = false := not_isBang_of_kind (by simp [h])
  rw [stops_cons]
  cases p <;> simp [Production.continues, hbang, h]

-- ── Derivations and what precedes them ─────────────────────────────

/-- A derivation without a leading complement starts with something else
    than a complement. -/
theorem Derives.exists_cons {p : Production} {ts : List Token} {e : Formula} {n : Nat}
    (h : Derives p ts e n) (hp : p = .primary ∨ p = .suffixed) :
    ∃ t us, ts = t :: us ∧ t.kind ≠ .complement := by
  induction h with
  | operand hkind _ => exact ⟨_, [], rfl, by simp [hkind]⟩
  | parentheses hkind _ _ => exact ⟨_, _, rfl, by simp [hkind]⟩
  | primary _ ih => exact ih (.inl rfl)
  | bang _ _ ih =>
      obtain ⟨t, us, rfl, ht⟩ := ih hp
      exact ⟨t, _, rfl, ht⟩
  | _ => simp at hp

-- ── What is read is derived ────────────────────────────────────────

/-- The complements behind an operand are derived, and no further one
    follows. -/
theorem derives_complementBangs {ws : List Token} {a : Formula} {n : Nat}
    (h : Derives .suffixed ws a n) (ts : List Token) :
    ∃ vs, ts = vs ++ (complementBangs a ts).2 ∧
      Derives .suffixed (ws ++ vs) (complementBangs a ts).1 n ∧
      Stops .suffixed (complementBangs a ts).2 := by
  induction ts generalizing ws a with
  | nil => exact ⟨[], rfl, by simpa [complementBangs] using h, stops_nil _⟩
  | cons t ts ih =>
      simp only [complementBangs]
      by_cases ht : t.isBang = true
      · rw [if_pos ht]
        obtain ⟨vs, hvs, hd, hstop⟩ := ih (h.bang ht)
        refine ⟨t :: vs, by rw [List.cons_append, ← hvs], ?_, hstop⟩
        rw [List.append_assoc] at hd
        exact hd
      · rw [if_neg ht]
        refine ⟨[], rfl, by rw [List.append_nil]; exact h, stops_cons.mpr ?_⟩
        simpa [Production.continues] using ht

/-- What a successful reading says: the tokens passed over are derived,
    within the limit and at the depth where reading began, and reading
    stopped where the production cannot go on. -/
structure Reads (limit : Nat) (p : Production) (c : Cursor) (passed : List Token)
    (e : Formula) (n : Nat) (c' : Cursor) : Prop where
  rest : c.rest = passed ++ c'.rest
  derives : Derives p passed e n
  nesting : c.depth + n ≤ limit
  depth : c'.depth = c.depth
  stops : Stops p c'.rest

namespace Reads

variable {us vs ts : List Token} {a b e : Formula} {m n d : Nat} {c c₁ c' : Cursor}

/-- An operand is read as the leaf with its name. -/
theorem operand {t : Token} {name : Char} {cs : List Char} (hd : d ≤ limit)
    (hkind : t.kind = .operand) (htext : t.text = name :: cs) :
    Reads limit .primary ⟨t :: ts, d⟩ [t] (.leaf name) 0 ⟨ts, d⟩ :=
  ⟨rfl, .operand hkind htext, hd, rfl, fun _ _ => rfl⟩

/-- A formula in parentheses is read one level deeper, and the level is
    closed behind it. -/
theorem parentheses {t u : Token} (h : Reads limit (.chain .disjunctive) ⟨ts, d + 1⟩ us e n c')
    (hopening : t.kind = .opening) (hrest : c'.rest = u :: vs) (hclosing : u.kind = .closing) :
    Reads limit .primary ⟨t :: ts, d⟩ (t :: (us ++ [u])) e (n + 1) ⟨vs, c'.depth - 1⟩ where
  rest := by
    have hbody : ts = us ++ c'.rest := h.rest
    simp [hbody, hrest]
  derives := h.derives.parentheses hopening hclosing
  nesting := by
    have hnest : d + 1 + n ≤ limit := h.nesting
    show d + (n + 1) ≤ limit
    omega
  depth := by
    have hdepth : c'.depth = d + 1 := h.depth
    simp only [hdepth, Nat.add_sub_cancel]
  stops := fun _ _ => rfl

/-- Behind a primary, its trailing complements are read too. -/
theorem suffixed (h : Reads limit .primary c us e n c') :
    ∃ vs, Reads limit .suffixed c (us ++ vs) (complementBangs e c'.rest).1 n
      ⟨(complementBangs e c'.rest).2, c'.depth⟩ := by
  obtain ⟨vs, hvs, hder, hstops⟩ := derives_complementBangs h.derives.primary c'.rest
  refine ⟨vs, ?_, hder, h.nesting, h.depth, hstops⟩
  rw [h.rest, List.append_assoc, ← hvs]

/-- An operand without a leading complement is read as it stands. -/
theorem plain (h : Reads limit .suffixed c us e n c') : Reads limit .complement c us e n c' :=
  ⟨h.rest, h.derives.suffixed, h.nesting, h.depth, h.stops⟩

/-- The operand of a leading complement is read one level deeper. -/
theorem complement {t : Token} (h : Reads limit .complement ⟨ts, d + 1⟩ us e n c')
    (hkind : t.kind = .complement) :
    Reads limit .complement ⟨t :: ts, d⟩ (t :: us) (.not e) (n + 1)
      ⟨c'.rest, c'.depth - 1⟩ where
  rest := congrArg (t :: ·) h.rest
  derives := h.derives.complement hkind
  nesting := by
    have hnest : d + 1 + n ≤ limit := h.nesting
    show d + (n + 1) ≤ limit
    omega
  depth := by
    have hdepth : c'.depth = d + 1 := h.depth
    simp only [hdepth, Nat.add_sub_cancel]
  stops := h.stops

/-- A chain that ends behind what was derived of it has been read. -/
theorem chain {f : Family} (hder : Derives (.chain f) us a m) (hnest : c.depth + m ≤ limit)
    (hstops : Stops (.chain f) c.rest) :
    Reads limit (.chain f) ⟨us ++ c.rest, c.depth⟩ us a m c :=
  ⟨rfl, hder, hnest, rfl, hstops⟩

/-- The first operand of a chain, as a part of the chain. -/
theorem first {f : Family} (h : Reads limit (operandOf f) c us a m c₁) :
    Derives (.chain f) us a m ∧ c₁.depth + m ≤ limit ∧
      (⟨us ++ c₁.rest, c₁.depth⟩ : Cursor) = c := by
  refine ⟨h.derives.single, h.depth ▸ h.nesting, ?_⟩
  rw [← h.rest, h.depth]

/-- One more operand behind a derived part of a chain. -/
theorem next {f : Family} {t : Token} {op : Connective} (hder : Derives (.chain f) us a m)
    (hnest : d + m ≤ limit) (hop : connective? f t = some op)
    (h : Reads limit (operandOf f) ⟨ts, d⟩ vs b n c₁) :
    Derives (.chain f) (us ++ t :: vs) (.binary op a b) (max m n) ∧
      c₁.depth + max m n ≤ limit ∧
      (⟨us ++ t :: vs ++ c₁.rest, c₁.depth⟩ : Cursor) = ⟨us ++ t :: ts, d⟩ := by
  obtain ⟨hkind, hfamily⟩ := connective?_eq_some.mp hop
  have hdepth : c₁.depth = d := h.depth
  have hrest : ts = vs ++ c₁.rest := h.rest
  have hnest' : d + n ≤ limit := h.nesting
  refine ⟨hder.connective hkind hfamily h.derives, by omega, ?_⟩
  rw [List.append_assoc, List.cons_append, ← hrest, hdepth]

end Reads

/-- What a production reads, it derives; and a chain that goes on behind
    a derived part reads as if it had begun in front of that part. -/
theorem reads_and_extends (limit : Nat) :
    (∀ p c, c.depth ≤ limit → ∀ e c', readAt limit p c = .ok (e, c') →
      ∃ passed n, Reads limit p c passed e n c') ∧
    ∀ f a c, ∀ us m, Derives (.chain f) us a m → c.depth + m ≤ limit →
      Stops (operandOf f) c.rest → ∀ e c', extendAt limit f a c = .ok (e, c') →
      ∃ passed n, Reads limit (.chain f) ⟨us ++ c.rest, c.depth⟩ passed e n c' := by
  refine readAt_induction limit ?chain ?stop ?step ?complement ?plain ?suffixed ?opening ?other
  case chain =>
    intro f c ihop ihext hd e c' h
    rw [readAt_chain] at h
    -- the first operand is a chain of its own, and the rest extends it
    obtain ⟨⟨a, c₁⟩, h₁, h₂⟩ := exists_of_bind_eq_ok h
    obtain ⟨us, m, hfirst⟩ := ihop hd a c₁ h₁
    obtain ⟨hder, hnest, hback⟩ := hfirst.first
    have hwhole := ihext a c₁ h₁ us m hder hnest hfirst.stops e c' h₂
    rwa [hback] at hwhole
  case stop =>
    intro f a c hnone us m hder hnest hstops e c' h
    rw [extendAt_of_none hnone] at h
    cases h
    exact ⟨us, m, .chain hder hnest (stops_chain.mpr ⟨hstops, hnone⟩)⟩
  case step =>
    intro f a t ts d op hop ihop ihext us m hder hnest _ e c' h
    rw [extendAt_of_some hop] at h
    obtain ⟨⟨b, c₁⟩, h₁, h₂⟩ := exists_of_bind_eq_ok h
    have hd : d ≤ limit := Nat.le_trans (Nat.le_add_right d m) hnest
    obtain ⟨vs, n, hnext⟩ := ihop hd b c₁ h₁
    -- the part derived so far, the connective and the operand are the next such part
    obtain ⟨hder', hnest', hback⟩ := Reads.next hder hnest hop hnext
    have hwhole := ihext b c₁ h₁ _ _ hder' hnest' hnext.stops e c' h₂
    rwa [hback] at hwhole
  case complement =>
    intro t ts d hkind ih _ e c' h
    rw [readAt_complement hkind] at h
    split at h
    · cases h
    · rename_i hlt
      obtain ⟨⟨a, c₁⟩, h₁, h₂⟩ := exists_of_map_eq_ok h
      cases h₂
      obtain ⟨us, n, hoperand⟩ := ih (Nat.lt_of_not_le hlt) a c₁ h₁
      exact ⟨_, _, hoperand.complement hkind⟩
  case plain =>
    intro c hne ih hd e c' h
    rw [readAt_complement_of_ne hne] at h
    obtain ⟨us, n, hplain⟩ := ih hd e c' h
    exact ⟨us, n, hplain.plain⟩
  case suffixed =>
    intro c ih hd e c' h
    rw [readAt_suffixed] at h
    obtain ⟨⟨a, c₁⟩, h₁, h₂⟩ := exists_of_map_eq_ok h
    cases h₂
    obtain ⟨us, n, hprimary⟩ := ih hd a c₁ h₁
    obtain ⟨vs, hsuffixed⟩ := hprimary.suffixed
    exact ⟨_, _, hsuffixed⟩
  case opening =>
    intro t ts d hkind ih _ e c' h
    rw [readAt_opening hkind] at h
    split at h
    · cases h
    · rename_i hlt
      obtain ⟨⟨body, c₁⟩, h₁, h₂⟩ := exists_of_bind_eq_ok h
      obtain ⟨us, n, hbody⟩ := ih (Nat.lt_of_not_le hlt) body c₁ h₁
      obtain ⟨u, vs, hrest, hclosing, rfl, rfl⟩ := closeAt_eq_ok h₂
      exact ⟨_, _, hbody.parentheses hkind hrest hclosing⟩
  case other =>
    rintro ⟨ts, d⟩ hopen hd e c' h
    cases ts with
    | nil =>
        rw [readAt_nil] at h
        cases h
    | cons t ts =>
        by_cases hoperand : t.kind = .operand
        · cases htext : t.text with
          | nil =>
              rw [readAt_unnamed hoperand htext] at h
              cases h
          | cons name cs =>
              rw [readAt_operand hoperand htext] at h
              cases h
              exact ⟨_, _, .operand hd hoperand htext⟩
        · rw [readAt_other (hopen t rfl) hoperand] at h
          cases h

/-- **Soundness of reading.**  Whatever a production reads within the
    limit, it derives. -/
theorem reads_of_readAt {p : Production} {c c' : Cursor} {e : Formula}
    (hd : c.depth ≤ limit) (h : readAt limit p c = .ok (e, c')) :
    ∃ passed n, Reads limit p c passed e n c' :=
  (reads_and_extends limit).1 p c hd e c' h

/-- **Levels are balanced.**  A production that succeeds leaves as many
    levels open as it found. -/
theorem depth_of_readAt {p : Production} {c : Cursor} {x : Formula × Cursor}
    (hd : c.depth ≤ limit) (h : readAt limit p c = .ok x) : x.2.depth = c.depth := by
  obtain ⟨_, _, hreads⟩ := reads_of_readAt hd h
  exact hreads.depth

/-- Nothing stands behind a production that it could have gone on with. -/
theorem stops_of_readAt {p : Production} {c : Cursor} {x : Formula × Cursor}
    (hd : c.depth ≤ limit) (h : readAt limit p c = .ok x) : Stops p x.2.rest := by
  obtain ⟨_, _, hreads⟩ := reads_of_readAt hd h
  exact hreads.stops

end SwitchLogic.Formula
