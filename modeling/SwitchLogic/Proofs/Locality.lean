import SwitchLogic.Proofs.Recognition

/-! # Reading is local

    A production reads one segment of the tokens.  In front of it, it
    looks at nothing; behind it, at one token, and of that only at the
    kind and at whether it is a `!`.  So it reads the same segment of any
    other list in which the segment stands at the same place and is
    followed by a token of that sort, or by none.

    The grammar carries the argument.  Which segment is read depends on
    the list in two ways: the segment must be derived, and the production
    must stop behind it.  The first speaks of nothing but the segment,
    the second of nothing but the next token.

    The levels that are open behind the segment are those that were open
    in front of it.  So when the body of a parenthesis or of a complement
    has been read, the level that was opened for it is there to be
    closed. -/

namespace SwitchLogic.Formula

-- ── Segments of lists ──────────────────────────────────────────────

section Segments

variable {α : Type} {i j : Nat} {xs ys zs : List α}

/-- A segment and what follows it, found again by their positions. -/
theorem extract_of_drop_eq_append (h : xs.drop i = ys ++ zs) (hne : ys ≠ []) :
    xs.extract i (xs.length - zs.length) = ys ∧ xs.drop (xs.length - zs.length) = zs := by
  have hlength : xs.length - i = ys.length + zs.length := by
    rw [← List.length_drop, h, List.length_append]
  have hpos : 0 < ys.length := List.length_pos_iff.mpr hne
  have hend : xs.length - zs.length = i + ys.length := by omega
  rw [hend]
  constructor
  · show (xs.drop i).take (i + ys.length - i) = ys
    rw [h, Nat.add_sub_cancel_left, List.take_left]
  · rw [← List.drop_drop, h, List.drop_left]

/-- A part of a list that is not empty ends behind its start. -/
theorem lt_of_extract_ne_nil (h : xs.extract i j ≠ []) : i < j := by
  refine Nat.lt_of_not_le fun hle => h ?_
  show (xs.drop i).take (j - i) = []
  rw [Nat.sub_eq_zero_of_le hle, List.take_zero]

/-- A part of a list and what stands behind it are the list from the start
    of the part on. -/
theorem extract_append_drop (h : i ≤ j) : xs.extract i j ++ xs.drop j = xs.drop i := by
  have hdrop : xs.drop j = (xs.drop i).drop (j - i) := by
    rw [List.drop_drop, Nat.add_sub_of_le h]
  rw [hdrop]
  exact List.take_append_drop (j - i) (xs.drop i)

/-- Lists that agree at the positions of a segment have that segment in
    common. -/
theorem extract_congr (h : ∀ k, i ≤ k → k < j → ys[k]? = xs[k]?) :
    ys.extract i j = xs.extract i j := by
  refine List.ext_getElem? fun k => ?_
  show ((ys.drop i).take (j - i))[k]? = ((xs.drop i).take (j - i))[k]?
  by_cases hk : k < j - i
  · rw [List.getElem?_take_of_lt hk, List.getElem?_take_of_lt hk, List.getElem?_drop,
      List.getElem?_drop]
    exact h (i + k) (Nat.le_add_right i k) (by omega)
  · rw [List.getElem?_take_eq_none (Nat.le_of_not_lt hk),
      List.getElem?_take_eq_none (Nat.le_of_not_lt hk)]

/-- A list in which a whole segment stands is long enough for it. -/
theorem le_length_of_extract_eq (h : ys.extract i j = xs.extract i j) (hlt : i < j)
    (hle : j ≤ xs.length) : j ≤ ys.length := by
  have hlength : min (j - i) (ys.length - i) = min (j - i) (xs.length - i) := by
    simpa only [List.extract, List.length_take, List.length_drop] using congrArg List.length h
  omega

end Segments

-- ── What is read from a position on ────────────────────────────────

variable {limit i j d d' : Nat} {p : Production} {ts : List Token} {e : Formula}

/-- What a production reads from a position in a list of tokens on: a
    formula, the position behind it, and the levels open there. -/
def readFrom (limit : Nat) (p : Production) (ts : List Token) (start depth : Nat) :
    Except Error (Formula × Nat × Nat) :=
  (readAt limit p ⟨ts.drop start, depth⟩).map fun x =>
    (x.1, ts.length - x.2.rest.length, x.2.depth)

/-- No production derives the empty list of tokens. -/
theorem Derives.ne_nil {n : Nat} (h : Derives p ts e n) : ts ≠ [] := by
  induction h with
  | primary _ ih => exact ih
  | suffixed _ ih => exact ih
  | single _ ih => exact ih
  | _ => simp

/-- **What is read is a segment** that the production derives within the
    limit and behind which it stops, and every such segment is read.  The
    levels open behind it are those open in front of it. -/
theorem readFrom_eq_ok_iff (hd : d ≤ limit) :
    readFrom limit p ts i d = .ok (e, j, d') ↔
      d' = d ∧ j ≤ ts.length ∧ (∃ n, d + n ≤ limit ∧ Derives p (ts.extract i j) e n) ∧
        Stops p (ts.drop j) := by
  constructor
  · intro h
    obtain ⟨⟨a, c⟩, hread, heq⟩ := exists_of_map_eq_ok h
    cases heq
    obtain ⟨us, n, hreads⟩ := reads_of_readAt (c := ⟨ts.drop i, d⟩) hd hread
    obtain ⟨hsegment, hrest⟩ := extract_of_drop_eq_append hreads.rest hreads.derives.ne_nil
    refine ⟨hreads.depth, Nat.sub_le _ _, ⟨n, hreads.nesting, ?_⟩, ?_⟩
    · rw [hsegment]
      exact hreads.derives
    · rw [hrest]
      exact hreads.stops
  · rintro ⟨rfl, hle, ⟨n, hnest, hder⟩, hstops⟩
    have hlt : i < j := lt_of_extract_ne_nil hder.ne_nil
    have hread := readAt_of_derives_of_stops hder hnest hstops
    rw [extract_append_drop (Nat.le_of_lt hlt)] at hread
    rw [readFrom, hread]
    show Except.ok (e, ts.length - (ts.drop j).length, d') = .ok (e, j, d')
    rw [List.length_drop, Nat.sub_sub_self hle]

/-- Whether a production goes on with a token is a matter of the token's
    kind and of whether it is a `!`. -/
theorem continues_congr {t u : Token} (hkind : u.kind = t.kind) (hbang : u.isBang = t.isBang) :
    p.continues u = p.continues t := by
  cases p <;> simp only [Production.continues, hkind, hbang]

/-- **Reading is local.**  A production that succeeds ends further on in
    the list, with as many levels open as when it began; and so does
    whatever is read one level further in, so that this level is still
    open when it is to be closed.  In every other list with the same
    tokens between the two positions, and behind them no token or one of
    the same kind and just as much a `!`, it reads the same formula up to
    the same position. -/
theorem readFrom_local (hd : d ≤ limit) (h : readFrom limit p ts i d = .ok (e, j, d')) :
    i < j ∧ j ≤ ts.length ∧ d' = d ∧
      (d < limit → ∀ q vs k x, readFrom limit q vs k (d + 1) = .ok x → x.2.2 = d + 1) ∧
      ∀ us, (∀ k, i ≤ k → k < j → us[k]? = ts[k]?) →
        (∀ u ∈ us[j]?, ∃ t ∈ ts[j]?, u.kind = t.kind ∧ u.isBang = t.isBang) →
        readFrom limit p us i d = .ok (e, j, d) := by
  obtain ⟨hdepth, hle, ⟨n, hnest, hder⟩, hstops⟩ := (readFrom_eq_ok_iff hd).mp h
  have hlt : i < j := lt_of_extract_ne_nil hder.ne_nil
  refine ⟨hlt, hle, hdepth, fun hlimit q vs k x hx => ((readFrom_eq_ok_iff hlimit).mp hx).1,
    fun us hsame hnext => ?_⟩
  -- a reading is a derivation of the tokens in between and a condition on the next one
  have hsegment : us.extract i j = ts.extract i j := extract_congr hsame
  refine (readFrom_eq_ok_iff hd).mpr ⟨rfl, le_length_of_extract_eq hsegment hlt hle,
    ⟨n, hnest, hsegment ▸ hder⟩, fun u hu => ?_⟩
  rw [List.head?_drop] at hu
  obtain ⟨t, ht, hkind, hbang⟩ := hnext u hu
  rw [continues_congr hkind hbang]
  exact hstops t (List.head?_drop ▸ ht)

/-- In `(a nand (b or c)! xor d)` the conjunction behind the first
    parenthesis ends in front of `xor`.  It does so as well where another
    operand stands before it, and nothing behind the `xor`. -/
theorem readFrom_local_nand :
    let segment : List Token :=
      [⟨.operand, ['a'], 1⟩, ⟨.connective .nand, ['n', 'a', 'n', 'd'], 3⟩, ⟨.opening, ['('], 8⟩,
        ⟨.operand, ['b'], 9⟩, ⟨.connective .or, ['o', 'r'], 11⟩, ⟨.operand, ['c'], 14⟩,
        ⟨.closing, [')'], 15⟩, ⟨.complement, ['!'], 16⟩]
    let ts := ⟨.opening, ['('], 0⟩ :: segment ++
      [⟨.connective .xor, ['x', 'o', 'r'], 18⟩, ⟨.operand, ['d'], 22⟩, ⟨.closing, [')'], 23⟩]
    let us := ⟨.operand, ['a'], 7⟩ :: segment ++ [⟨.connective .xor, ['^'], 30⟩]
    let e := nand (.leaf 'a') (.not (or (.leaf 'b') (.leaf 'c')))
    readFrom 2 (.chain .conjunctive) ts 1 1 = .ok (e, 9, 1) ∧
      readFrom 2 (.chain .conjunctive) us 1 1 = .ok (e, 9, 1) := by
  intro segment ts us e
  have ha : Derives (.chain .conjunctive) [⟨.operand, ['a'], 1⟩] (.leaf 'a') 0 :=
    .single (.suffixed (.primary (.operand rfl rfl)))
  have hb : Derives (.chain .disjunctive) [⟨.operand, ['b'], 9⟩] (.leaf 'b') 0 :=
    .single (.single (.single (.suffixed (.primary (.operand rfl rfl)))))
  have hc : Derives (operandOf .disjunctive) [⟨.operand, ['c'], 14⟩] (.leaf 'c') 0 :=
    .single (.single (.suffixed (.primary (.operand rfl rfl))))
  have hor : Derives (.chain .disjunctive) _ (or (.leaf 'b') (.leaf 'c')) 0 :=
    hb.connective (t := ⟨.connective .or, ['o', 'r'], 11⟩) rfl rfl hc
  have hbody : Derives .primary _ (or (.leaf 'b') (.leaf 'c')) 1 :=
    .parentheses (t := ⟨.opening, ['('], 8⟩) (u := ⟨.closing, [')'], 15⟩) rfl hor rfl
  have hbang : Derives .suffixed _ (.not (or (.leaf 'b') (.leaf 'c'))) 1 :=
    hbody.primary.bang (t := ⟨.complement, ['!'], 16⟩) rfl
  have hder : Derives (.chain .conjunctive) (ts.extract 1 9) e 1 :=
    ha.connective (t := ⟨.connective .nand, ['n', 'a', 'n', 'd'], 3⟩) rfl rfl hbang.suffixed
  have hread : readFrom 2 (.chain .conjunctive) ts 1 1 = .ok (e, 9, 1) :=
    (readFrom_eq_ok_iff (by decide)).mpr
      ⟨rfl, by decide, ⟨1, by decide, hder⟩, stops_cons.mpr rfl⟩
  have hsame : ∀ k, k < 9 → 1 ≤ k → us[k]? = ts[k]? := by decide
  refine ⟨hread, (readFrom_local (by decide) hread).2.2.2.2 us
    (fun k hfirst hlast => hsame k hlast hfirst) fun u hu => ?_⟩
  cases hu
  exact ⟨_, rfl, rfl, rfl⟩

end SwitchLogic.Formula
