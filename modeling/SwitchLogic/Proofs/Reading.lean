import SwitchLogic.Formula.Reading
import SwitchLogic.Proofs.Outcome

/-! # What the productions read

    A production that succeeds returns a formula and a cursor, together
    with the bound on the tokens behind the cursor that lets the
    recursion end.  Apart from that bound, reading obeys one equation
    for each production, and properties of all readings follow by one
    induction with one case for each production.

    Main statements: the equations `readAt_chain` to `readAt_other`, and
    `readAt_induction`. -/

namespace SwitchLogic.Formula

variable {limit : Nat}

/-- What a production reads at a cursor: a formula and the cursor behind
    it. -/
def readAt (limit : Nat) (p : Production) (c : Cursor) : Except Error (Formula × Cursor) :=
  (read limit p c).map fun r => (r.formula, r.after)

/-- What the rest of a chain makes of a formula already read. -/
def extendAt (limit : Nat) (f : Family) (left : Formula) (c : Cursor) :
    Except Error (Formula × Cursor) :=
  (extend limit f left c).map fun r => (r.formula, r.after)

/-- **Every production reads something.**  Fewer tokens are left behind it
    than in front of it. -/
theorem length_lt_of_readAt {p : Production} {c c' : Cursor} {e : Formula}
    (h : readAt limit p c = .ok (e, c')) : c'.rest.length < c.rest.length := by
  obtain ⟨r, -, hr⟩ := exists_of_map_eq_ok h
  cases hr
  exact r.shorter

-- ── One equation for each production ───────────────────────────────

/-- A chain reads its first operand and goes on behind it. -/
theorem readAt_chain (f : Family) (c : Cursor) :
    readAt limit (.chain f) c
      = (readAt limit (operandOf f) c).bind fun x => extendAt limit f x.1 x.2 := by
  simp only [readAt, extendAt, read]
  cases read limit (operandOf f) c with
  | error e => rfl
  | ok first =>
      simp only [Except.map, Except.bind]
      cases extend limit f first.formula first.after <;> rfl

/-- A chain ends where none of its connectives follows. -/
theorem extendAt_of_none {f : Family} {c : Cursor}
    (h : ∀ t ∈ c.rest.head?, connective? f t = none) (a : Formula) :
    extendAt limit f a c = .ok (a, c) := by
  obtain ⟨ts, d⟩ := c
  cases ts with
  | nil => simp [extendAt, extend, Except.map]
  | cons t ts => simp [extendAt, extend, h t rfl, Except.map]

/-- A connective of the chain is followed by one more operand, and the
    formula to its left becomes the left operand of a new node. -/
theorem extendAt_of_some {f : Family} {t : Token} {op : Connective}
    (h : connective? f t = some op) (a : Formula) (ts : List Token) (d : Nat) :
    extendAt limit f a ⟨t :: ts, d⟩
      = (readAt limit (operandOf f) ⟨ts, d⟩).bind fun x =>
          extendAt limit f (.binary op a x.1) x.2 := by
  simp only [readAt, extendAt, extend, h]
  cases read limit (operandOf f) ⟨ts, d⟩ with
  | error e => rfl
  | ok right =>
      simp only [Except.map, Except.bind]
      cases extend limit f (.binary op a right.formula) right.after <;> rfl

/-- A leading complement opens a level, which its operand closes again, and
    is refused where no level may be opened. -/
theorem readAt_complement {t : Token} (h : t.kind = .complement) (ts : List Token)
    (d : Nat) :
    readAt limit .complement ⟨t :: ts, d⟩
      = if limit ≤ d then .error (.nestingTooDeep limit)
        else (readAt limit .complement ⟨ts, d + 1⟩).map fun x =>
          (.not x.1, ⟨x.2.rest, x.2.depth - 1⟩) := by
  simp only [readAt]
  rw [read, if_pos h]
  split
  · rfl
  · cases read limit .complement ⟨ts, d + 1⟩ <;> rfl

/-- Where no complement leads, the operand and its trailing complements
    follow. -/
theorem readAt_complement_of_ne {c : Cursor} (h : ∀ t ∈ c.rest.head?, t.kind ≠ .complement) :
    readAt limit .complement c = readAt limit .suffixed c := by
  obtain ⟨ts, d⟩ := c
  cases ts with
  | nil => simp only [readAt, read]
  | cons t ts =>
      have ht : ¬ t.kind = .complement := h t rfl
      simp only [readAt]
      rw [read, if_neg ht]

/-- Trailing complements are read behind their operand, and open no level. -/
theorem readAt_suffixed (c : Cursor) :
    readAt limit .suffixed c
      = (readAt limit .primary c).map fun x =>
          let y := complementBangs x.1 x.2.rest
          (y.1, ⟨y.2, x.2.depth⟩) := by
  simp only [readAt]
  rw [read]
  cases read limit .primary c <;> rfl

theorem readAt_nil (d : Nat) : readAt limit .primary ⟨[], d⟩ = .error .unexpectedEnd := by
  simp [readAt, read, Except.map]

/-- The cursor behind a closing parenthesis. -/
def closeAt (body : Formula) : Cursor → Except Error (Formula × Cursor)
  | ⟨[], _⟩ => .error .missingClosing
  | ⟨u :: us, d⟩ =>
      if u.kind = .closing then .ok (body, ⟨us, d - 1⟩) else .error .missingClosing

/-- A level is closed by a closing parenthesis, and leaves the formula
    inside as it is. -/
theorem closeAt_eq_ok {body e : Formula} {c c' : Cursor} (h : closeAt body c = .ok (e, c')) :
    ∃ u us, c.rest = u :: us ∧ u.kind = .closing ∧ e = body ∧ c' = ⟨us, c.depth - 1⟩ := by
  obtain ⟨ts, d⟩ := c
  cases ts with
  | nil => cases h
  | cons u us =>
      simp only [closeAt] at h
      split at h
      · rename_i hclosing
        cases h
        exact ⟨u, us, rfl, hclosing, rfl, rfl⟩
      · cases h

/-- An opening parenthesis opens a level, in which a formula of any shape
    is read up to the closing parenthesis. -/
theorem readAt_opening {t : Token} (h : t.kind = .opening) (ts : List Token) (d : Nat) :
    readAt limit .primary ⟨t :: ts, d⟩
      = if limit ≤ d then .error (.nestingTooDeep limit)
        else (readAt limit (.chain .disjunctive) ⟨ts, d + 1⟩).bind fun x =>
          closeAt x.1 x.2 := by
  simp only [readAt]
  conv => lhs; rw [read]
  simp only [h]
  split
  · rfl
  · cases read limit (.chain .disjunctive) ⟨ts, d + 1⟩ with
    | error e => rfl
    | ok r =>
        obtain ⟨body, ⟨us, d'⟩, hlt⟩ := r
        cases us with
        | nil => rfl
        | cons u us =>
            by_cases hu : u.kind = .closing <;>
              simp only [Except.map, Except.bind, closeAt, hu, if_true, if_false]

/-- An operand is a leaf, named by the first character of its token. -/
theorem readAt_operand {t : Token} {c : Char} {cs : List Char} (h : t.kind = .operand)
    (htext : t.text = c :: cs) (ts : List Token) (d : Nat) :
    readAt limit .primary ⟨t :: ts, d⟩ = .ok (.leaf c, ⟨ts, d⟩) := by
  simp only [readAt]
  rw [read]
  simp only [h, htext]
  rfl

/-- An operand without a text is a fault. -/
theorem readAt_unnamed {t : Token} (h : t.kind = .operand) (htext : t.text = [])
    (ts : List Token) (d : Nat) :
    readAt limit .primary ⟨t :: ts, d⟩
      = .error (.inconsistent (.unnamedOperand t.position)) := by
  simp only [readAt]
  rw [read]
  simp only [h, htext]
  rfl

/-- No other token starts an operand. -/
theorem readAt_other {t : Token} (hopen : t.kind ≠ .opening) (hoperand : t.kind ≠ .operand)
    (ts : List Token) (d : Nat) :
    readAt limit .primary ⟨t :: ts, d⟩ = .error (.unexpectedToken t) := by
  simp only [readAt]
  rw [read]
  split <;> simp_all [Except.map]

/-- A list of tokens is read by the loosest production, and nothing may
    be left behind it. -/
theorem ofTokens_eq (ts : List Token) :
    ofTokens limit ts
      = (readAt limit (.chain .disjunctive) ⟨ts, 0⟩).bind fun x =>
          if x.2.rest.isEmpty then .ok x.1 else .error .trailingTokens := by
  simp only [readAt, ofTokens]
  cases read limit (.chain .disjunctive) ⟨ts, 0⟩ <;> rfl

-- ── Induction on readings ──────────────────────────────────────────

/-- **Induction on readings.**  `P` speaks of a production at a cursor
    and `Q` of the rest of a chain; both follow along the calls that a
    production makes, and behind a successful call the chain goes on at
    the cursor that was reached. -/
theorem readAt_induction (limit : Nat) {P : Production → Cursor → Prop}
    {Q : Family → Formula → Cursor → Prop}
    (chain : ∀ f c, P (operandOf f) c →
      (∀ a c', readAt limit (operandOf f) c = .ok (a, c') → Q f a c') → P (.chain f) c)
    (stop : ∀ f a c, (∀ t ∈ c.rest.head?, connective? f t = none) → Q f a c)
    (step : ∀ f a t ts d op, connective? f t = some op → P (operandOf f) ⟨ts, d⟩ →
      (∀ b c', readAt limit (operandOf f) ⟨ts, d⟩ = .ok (b, c') → Q f (.binary op a b) c') →
      Q f a ⟨t :: ts, d⟩)
    (complement : ∀ t ts d, t.kind = .complement → P .complement ⟨ts, d + 1⟩ →
      P .complement ⟨t :: ts, d⟩)
    (plain : ∀ c, (∀ t ∈ c.rest.head?, t.kind ≠ .complement) → P .suffixed c →
      P .complement c)
    (suffixed : ∀ c, P .primary c → P .suffixed c)
    (opening : ∀ t ts d, t.kind = .opening → P (.chain .disjunctive) ⟨ts, d + 1⟩ →
      P .primary ⟨t :: ts, d⟩)
    (other : ∀ c, (∀ t ∈ c.rest.head?, t.kind ≠ .opening) → P .primary c) :
    (∀ p c, P p c) ∧ ∀ f a c, Q f a c := by
  -- the measure of the recursion: tokens left first, then the production
  suffices key : ∀ n, (∀ p c, 7 * c.rest.length + p.height = n → P p c) ∧
      ∀ f a c, 7 * c.rest.length = n → Q f a c from
    ⟨fun p c => (key _).1 p c rfl, fun f a c => (key _).2 f a c rfl⟩
  intro n
  induction n using Nat.strongRecOn with
  | ind n ih =>
      constructor
      · rintro p ⟨ts, d⟩ hn
        simp only at hn
        cases p with
        | chain f =>
            have hlooser : 7 * ts.length + (operandOf f).height < n :=
              hn ▸ Nat.add_lt_add_left (height_operandOf f) _
            refine chain f _ ((ih _ hlooser).1 _ ⟨ts, d⟩ rfl) fun a c' h => ?_
            -- what goes on behind an operand has fewer tokens left, since an operand takes some
            have hshorter : c'.rest.length < ts.length := length_lt_of_readAt h
            exact (ih _ (by omega)).2 f a c' rfl
        | complement =>
            have hlooser : 7 * ts.length + Production.suffixed.height < n :=
              hn ▸ Nat.add_lt_add_left (by decide) _
            have hplain : (∀ t ∈ ts.head?, t.kind ≠ .complement) → P .complement ⟨ts, d⟩ :=
              fun h => plain _ h ((ih _ hlooser).1 .suffixed ⟨ts, d⟩ rfl)
            cases ts with
            | nil => exact hplain fun t ht => nomatch ht
            | cons t ts =>
                by_cases ht : t.kind = .complement
                · refine complement t ts d ht ((ih _ ?_).1 .complement ⟨ts, d + 1⟩ rfl)
                  simp only [List.length_cons] at hn ⊢
                  omega
                · exact hplain fun u hu => Option.some.inj hu ▸ ht
        | suffixed =>
            have hlooser : 7 * ts.length + Production.primary.height < n :=
              hn ▸ Nat.add_lt_add_left (by decide) _
            exact suffixed _ ((ih _ hlooser).1 .primary ⟨ts, d⟩ rfl)
        | primary =>
            cases ts with
            | nil => exact other _ fun t ht => nomatch ht
            | cons t ts =>
                by_cases ht : t.kind = .opening
                · refine opening t ts d ht ((ih _ ?_).1 _ ⟨ts, d + 1⟩ rfl)
                  simp only [List.length_cons, Production.height] at hn ⊢
                  omega
                · exact other _ fun u hu => Option.some.inj hu ▸ ht
      · rintro f a ⟨ts, d⟩ hn
        cases ts with
        | nil => exact stop f a _ fun t ht => nomatch ht
        | cons t ts =>
            simp only [List.length_cons] at hn
            have hheight := height_le (operandOf f)
            cases hop : connective? f t with
            | none => exact stop f a _ fun u hu => Option.some.inj hu ▸ hop
            | some op =>
                refine step f a t ts d op hop ((ih _ ?_).1 _ ⟨ts, d⟩ rfl) fun b c' h => ?_
                · simp only
                  omega
                · have hshorter : c'.rest.length < ts.length := length_lt_of_readAt h
                  exact (ih _ (by omega)).2 f _ c' rfl

end SwitchLogic.Formula
