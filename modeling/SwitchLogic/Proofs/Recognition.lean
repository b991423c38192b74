import SwitchLogic.Proofs.Grammar

/-! # Reading accepts exactly the grammar

    A derivation is read back in front of every list of tokens that
    cannot continue its production.  For the induction the production
    may also stop half way: behind a derived part of a chain, or behind
    an operand that may still be complemented, reading is as good as
    resuming there.  A derivation that opens too many levels is refused
    at the first level above the limit, whatever follows it. -/

namespace SwitchLogic.Formula

variable {limit : Nat}

-- ── Resuming behind a derivation ───────────────────────────────────

/-- What a production still does with a formula that it has derived. -/
def resume (limit : Nat) : Production → Formula → Cursor → Except Error (Formula × Cursor)
  | .chain f, a, c => extendAt limit f a c
  | .suffixed, a, c =>
      .ok ((complementBangs a c.rest).1, ⟨(complementBangs a c.rest).2, c.depth⟩)
  | .complement, a, c => .ok (a, c)
  | .primary, a, c => .ok (a, c)

/-- Where a production can be resumed: its operands must have ended. -/
def Resumable : Production → List Token → Prop
  | .chain f, ts => Stops (operandOf f) ts
  | .suffixed, _ => True
  | p, ts => Stops p ts

/-- Where no trailing complement follows, the operand stays as it is. -/
theorem complementBangs_of_stops {ts : List Token} (h : Stops .suffixed ts) (a : Formula) :
    complementBangs a ts = (a, ts) := by
  cases ts with
  | nil => rfl
  | cons t ts =>
      have ht : t.isBang = false := stops_cons.mp h
      simp [complementBangs, ht]

/-- Where a production ends, nothing is left to resume. -/
theorem resume_of_stops {p : Production} {c : Cursor} (h : Stops p c.rest) (a : Formula) :
    resume limit p a c = .ok (a, c) := by
  cases p with
  | chain f => exact extendAt_of_none (stops_chain.mp h).2 a
  | suffixed =>
      show Except.ok ((complementBangs a c.rest).1,
        (⟨(complementBangs a c.rest).2, c.depth⟩ : Cursor)) = _
      rw [complementBangs_of_stops h]
  | complement => rfl
  | primary => rfl

/-- Where a production ends, its operands have ended. -/
theorem resumable_of_stops {p : Production} {ts : List Token} (h : Stops p ts) :
    Resumable p ts := by
  cases p with
  | chain f => exact (stops_chain.mp h).1
  | suffixed => trivial
  | complement => exact h
  | primary => exact h

-- ── Derivations are read back ──────────────────────────────────────

/-- Reading a derivation within the limit leads to where it ends. -/
theorem readAt_of_derives {p : Production} {us : List Token} {e : Formula} {n : Nat}
    (h : Derives p us e n) : ∀ d rest, d + n ≤ limit → Resumable p rest →
      readAt limit p ⟨us ++ rest, d⟩ = resume limit p e ⟨rest, d⟩ := by
  induction h with
  | operand hkind htext =>
      intro d rest _ _
      exact readAt_operand hkind htext rest d
  | @parentheses t ts u e n hopen _ hclose ih =>
      intro d rest hd _
      -- nothing inside continues past the closing parenthesis
      have hstops := stops_closing hclose (.chain .disjunctive) rest
      rw [List.cons_append, List.append_assoc, readAt_opening hopen, if_neg (by omega),
        List.singleton_append, ih (d + 1) _ (by omega) (resumable_of_stops hstops),
        resume_of_stops hstops]
      simp only [Except.bind, closeAt, hclose, if_true, Nat.add_sub_cancel]
      rfl
  | primary _ ih =>
      intro d rest hd _
      rw [readAt_suffixed, ih d rest hd (fun _ _ => rfl)]
      rfl
  | @bang ts t e n _ ht ih =>
      intro d rest hd _
      rw [List.append_assoc, List.singleton_append, ih d _ hd trivial]
      simp only [resume, complementBangs, ht, if_true]
  | @suffixed ts e n h ih =>
      intro d rest hd hstops
      obtain ⟨t, us, rfl, hne⟩ := h.exists_cons (.inr rfl)
      have hplain : ∀ u ∈ ((t :: us) ++ rest).head?, u.kind ≠ .complement :=
        fun u hu => Option.some.inj hu ▸ hne
      have hbang : Stops .suffixed rest := hstops
      rw [readAt_complement_of_ne (c := ⟨(t :: us) ++ rest, d⟩) hplain,
        ih d rest hd trivial]
      exact resume_of_stops (c := ⟨rest, d⟩) hbang e
  | @complement t ts e n hkind _ ih =>
      intro d rest hd hstops
      rw [List.cons_append, readAt_complement hkind, if_neg (by omega),
        ih (d + 1) rest (by omega) hstops]
      rfl
  | @single f ts e n _ ih =>
      intro d rest hd hrest
      have hstops : Stops (operandOf f) rest := hrest
      rw [readAt_chain, ih d rest hd (resumable_of_stops hstops), resume_of_stops hstops]
      rfl
  | @connective f us t vs op a b m n _ hkind hfamily _ iha ihb =>
      intro d rest hd hrest
      have hstops : Stops (operandOf f) rest := hrest
      have hop : connective? f t = some op := connective?_eq_some.mpr ⟨hkind, hfamily⟩
      rw [List.append_assoc, List.cons_append,
        iha d _ (by omega) (stops_operandOf hop _)]
      simp only [resume]
      rw [extendAt_of_some hop, ihb d rest (by omega) (resumable_of_stops hstops),
        resume_of_stops hstops]
      rfl

/-- In front of tokens that cannot continue its production, a derivation
    is read up to its end. -/
theorem readAt_of_derives_of_stops {p : Production} {us rest : List Token} {e : Formula}
    {n d : Nat} (h : Derives p us e n) (hd : d + n ≤ limit) (hstops : Stops p rest) :
    readAt limit p ⟨us ++ rest, d⟩ = .ok (e, ⟨rest, d⟩) := by
  rw [readAt_of_derives h d rest hd (resumable_of_stops hstops)]
  exact resume_of_stops (c := ⟨rest, d⟩) hstops e

/-- A derivation with more levels than the limit is refused for its
    nesting, whatever follows. -/
theorem readAt_of_derives_of_lt {p : Production} {us : List Token} {e : Formula} {n : Nat}
    (h : Derives p us e n) : ∀ d rest, d ≤ limit → limit < d + n →
      readAt limit p ⟨us ++ rest, d⟩ = .error (.nestingTooDeep limit) := by
  induction h with
  | operand _ _ =>
      intro d rest hd hlt
      omega
  | @parentheses t ts u e n hopen _ _ ih =>
      intro d rest hd hlt
      rw [List.cons_append, List.append_assoc, readAt_opening hopen]
      split
      · rfl
      · rw [ih (d + 1) _ (by omega) (by omega)]
        rfl
  | primary _ ih =>
      intro d rest hd hlt
      rw [readAt_suffixed, ih d rest hd hlt]
      rfl
  | bang _ _ ih =>
      intro d rest hd hlt
      rw [List.append_assoc, ih d _ hd hlt]
  | @suffixed ts e n h ih =>
      intro d rest hd hlt
      obtain ⟨t, us, rfl, hne⟩ := h.exists_cons (.inr rfl)
      have hplain : ∀ u ∈ ((t :: us) ++ rest).head?, u.kind ≠ .complement :=
        fun u hu => Option.some.inj hu ▸ hne
      rw [readAt_complement_of_ne (c := ⟨(t :: us) ++ rest, d⟩) hplain, ih d rest hd hlt]
  | @complement t ts e n hkind _ ih =>
      intro d rest hd hlt
      rw [List.cons_append, readAt_complement hkind]
      split
      · rfl
      · rw [ih (d + 1) rest (by omega) (by omega)]
        rfl
  | single _ ih =>
      intro d rest hd hlt
      rw [readAt_chain, ih d rest hd hlt]
      rfl
  | @connective f us t vs op a b m n ha hkind hfamily _ iha ihb =>
      intro d rest hd hlt
      have hop : connective? f t = some op := connective?_eq_some.mpr ⟨hkind, hfamily⟩
      rw [List.append_assoc, List.cons_append]
      -- the left part is refused itself, or read in front of the connective
      by_cases hm : limit < d + m
      · exact iha d _ hd hm
      · rw [readAt_of_derives ha d _ (by omega) (stops_operandOf hop _)]
        simp only [resume]
        rw [extendAt_of_some hop, ihb d rest hd (by omega)]
        rfl

-- ── Whole lists of tokens ──────────────────────────────────────────

/-- **Derived tokens are read** as the formula that they write, within the
    limit on the levels. -/
theorem ofTokens_of_derives {ts : List Token} {e : Formula} {n : Nat}
    (h : Derives (.chain .disjunctive) ts e n) (hn : n ≤ limit) :
    ofTokens limit ts = .ok e := by
  have hread : readAt limit (.chain .disjunctive) ⟨ts ++ [], 0⟩ = .ok (e, ⟨[], 0⟩) :=
    readAt_of_derives_of_stops h (by omega) (stops_nil _)
  rw [List.append_nil] at hread
  rw [ofTokens_eq, hread]
  rfl

/-- **Beyond the limit they are refused**, and for no other reason. -/
theorem ofTokens_of_derives_of_lt {ts : List Token} {e : Formula} {n : Nat}
    (h : Derives (.chain .disjunctive) ts e n) (hn : limit < n) :
    ofTokens limit ts = .error (.nestingTooDeep limit) := by
  have hread := readAt_of_derives_of_lt h 0 [] (Nat.zero_le limit) (by omega)
  rw [List.append_nil] at hread
  rw [ofTokens_eq, hread]
  rfl

/-- Tokens that are read are derived, with no more levels than the limit
    allows. -/
theorem derives_of_ofTokens {ts : List Token} {e : Formula} (h : ofTokens limit ts = .ok e) :
    ∃ n, n ≤ limit ∧ Derives (.chain .disjunctive) ts e n := by
  rw [ofTokens_eq] at h
  obtain ⟨⟨e', c'⟩, hread, h⟩ := exists_of_bind_eq_ok h
  obtain ⟨us, n, hrest, hder, hnest, -, -⟩ := reads_of_readAt (Nat.zero_le limit) hread
  simp only at h hrest hnest
  split at h
  · rename_i hempty
    cases h
    rw [List.isEmpty_iff.mp hempty, List.append_nil] at hrest
    exact ⟨n, by omega, hrest ▸ hder⟩
  · cases h

/-- **The grammar is unambiguous.** -/
theorem Derives.unique {ts : List Token} {e e' : Formula} {m n : Nat}
    (h : Derives (.chain .disjunctive) ts e m) (h' : Derives (.chain .disjunctive) ts e' n) :
    e = e' := by
  have h₁ : ofTokens (max m n) ts = .ok e := ofTokens_of_derives h (Nat.le_max_left m n)
  have h₂ : ofTokens (max m n) ts = .ok e' := ofTokens_of_derives h' (Nat.le_max_right m n)
  exact Except.ok.inj (h₁.symm.trans h₂)

/-- **Reading accepts exactly the grammar.**  A list of tokens is read as
    a formula exactly when it derives the formula within the limit; it
    derives no other formula; and if it derives one with more levels than
    the limit, the nesting is reported. -/
theorem ofTokens_eq_ok_iff_derives (limit : Nat) (ts : List Token) :
    (∀ e, ofTokens limit ts = .ok e ↔ ∃ n, n ≤ limit ∧ Derives (.chain .disjunctive) ts e n) ∧
    (∀ e e' m n, Derives (.chain .disjunctive) ts e m → Derives (.chain .disjunctive) ts e' n →
      e = e') ∧
    ∀ e n, Derives (.chain .disjunctive) ts e n → limit < n →
      ofTokens limit ts = .error (.nestingTooDeep limit) := by
  refine ⟨fun e => ⟨derives_of_ofTokens, ?_⟩, fun e e' m n => Derives.unique,
    fun e n => ofTokens_of_derives_of_lt⟩
  rintro ⟨n, hn, h⟩
  exact ofTokens_of_derives h hn

/-- The tokens of `not (a and b)!`: the leading complement and the
    parentheses are open at once, the complement behind them opens
    nothing. -/
theorem ofTokens_eq_ok_iff_derives_nand :
    let ts : List Token :=
      [⟨.complement, ['n', 'o', 't'], 0⟩, ⟨.opening, ['('], 4⟩, ⟨.operand, ['a'], 5⟩,
        ⟨.connective .and, ['a', 'n', 'd'], 7⟩, ⟨.operand, ['b'], 11⟩, ⟨.closing, [')'], 12⟩,
        ⟨.complement, ['!'], 13⟩]
    let e := Formula.not (.not (.and (.leaf 'a') (.leaf 'b')))
    ofTokens 2 ts = .ok e ∧ ofTokens 1 ts = .error (.nestingTooDeep 1) := by
  intro ts e
  have ha : Derives (.chain .conjunctive) [⟨.operand, ['a'], 5⟩] (.leaf 'a') 0 :=
    .single (.suffixed (.primary (.operand rfl rfl)))
  have hb : Derives (operandOf .conjunctive) [⟨.operand, ['b'], 11⟩] (.leaf 'b') 0 :=
    .suffixed (.primary (.operand rfl rfl))
  have hand : Derives (.chain .disjunctive) _ (.and (.leaf 'a') (.leaf 'b')) 0 :=
    .single (.single (ha.connective (t := ⟨.connective .and, ['a', 'n', 'd'], 7⟩) rfl rfl hb))
  have hbody : Derives .primary _ (.and (.leaf 'a') (.leaf 'b')) 1 :=
    .parentheses (t := ⟨.opening, ['('], 4⟩) (u := ⟨.closing, [')'], 12⟩) rfl hand rfl
  have hbang : Derives .suffixed _ (.not (.and (.leaf 'a') (.leaf 'b'))) 1 :=
    hbody.primary.bang (t := ⟨.complement, ['!'], 13⟩) rfl
  have hder : Derives (.chain .disjunctive) ts e 2 :=
    .single (.single (.single (.complement rfl hbang.suffixed)))
  exact ⟨((ofTokens_eq_ok_iff_derives 2 ts).1 e).mpr ⟨2, by decide, hder⟩,
    (ofTokens_eq_ok_iff_derives 1 ts).2.2 e 2 hder (by decide)⟩

end SwitchLogic.Formula
