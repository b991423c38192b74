import SwitchLogic.Proofs.RoundTrip

/-! # Larger limits

    A limit only cuts off.  Under larger limits everything has the same
    outcome, be it a result or a failure, unless the smaller limit itself
    was reported.  For the length of a text, the columns of a table and
    the devices of a network this is one comparison.  For the nesting it
    is not, since the limit is asked at every level that is opened: the
    two readings go through the same tokens, in step up to the level that
    the smaller limit refuses.

    `AgreesUnless` says that of two outcomes, and is kept by doing one
    thing after another. -/

namespace SwitchLogic

-- ── Agreement up to one failure ────────────────────────────────────

/-- The second outcome is the same as the first, unless the first is the
    given failure. -/
def AgreesUnless {α : Type} (err : Error) (x y : Except Error α) : Prop :=
  x = .error err ∨ y = x

namespace AgreesUnless

variable {α β : Type} {err : Error} {x y : Except Error α}

/-- Equal outcomes agree, whatever the failure. -/
theorem refl (x : Except Error α) : AgreesUnless err x x := .inr rfl

/-- Steps in sequence agree where each of them does. -/
theorem bind {f g : α → Except Error β} (h : AgreesUnless err x y)
    (hstep : ∀ a, x = .ok a → AgreesUnless err (f a) (g a)) :
    AgreesUnless err (x.bind f) (y.bind g) := by
  rcases h with rfl | rfl
  · exact .inl rfl
  · cases y with
    | error e => exact refl (.error e)
    | ok a => exact hstep a rfl

/-- What is made of outcomes agrees where they do. -/
theorem map (h : AgreesUnless err x y) (f : α → β) : AgreesUnless err (x.map f) (y.map f) := by
  rcases h with rfl | rfl
  · exact .inl rfl
  · exact refl _

/-- A refusal for which the second outcome has no more cause than the
    first. -/
theorem refusal {P P' : Prop} [Decidable P] [Decidable P'] (hcause : P' → P)
    (h : AgreesUnless err x y) (z : Except Error α) :
    AgreesUnless err (if P then .error err else x) (if P' then z else y) := by
  by_cases hP : P
  · rw [if_pos hP]
    exact .inl rfl
  · rw [if_neg hP, if_neg fun hP' => hP (hcause hP')]
    exact h

end AgreesUnless

-- ── Tokens ─────────────────────────────────────────────────────────

namespace Formula

variable {limit limit' : Nat}

/-- **Readings stay in step.**  Under a larger limit a production reads
    the same, unless the smaller limit refuses a level. -/
theorem readAt_agreesUnless (hle : limit ≤ limit') :
    (∀ p c, AgreesUnless (.nestingTooDeep limit) (readAt limit p c) (readAt limit' p c)) ∧
    ∀ f a c,
      AgreesUnless (.nestingTooDeep limit) (extendAt limit f a c) (extendAt limit' f a c) := by
  refine readAt_induction limit ?chain ?stop ?step ?complement ?plain ?suffixed ?opening ?other
  case chain =>
    intro f c ihop ihext
    rw [readAt_chain, readAt_chain]
    exact ihop.bind fun x hx => ihext x.1 x.2 hx
  case stop =>
    intro f a c hnone
    rw [extendAt_of_none hnone, extendAt_of_none hnone]
    exact .refl _
  case step =>
    intro f a t ts d op hop ihop ihext
    rw [extendAt_of_some hop, extendAt_of_some hop]
    exact ihop.bind fun x hx => ihext x.1 x.2 hx
  case complement =>
    intro t ts d hkind ih
    rw [readAt_complement hkind, readAt_complement hkind]
    exact .refusal (Nat.le_trans hle) (ih.map _) _
  case plain =>
    intro c hne ih
    rw [readAt_complement_of_ne hne, readAt_complement_of_ne hne]
    exact ih
  case suffixed =>
    intro c ih
    rw [readAt_suffixed, readAt_suffixed]
    exact ih.map _
  case opening =>
    intro t ts d hkind ih
    rw [readAt_opening hkind, readAt_opening hkind]
    exact .refusal (Nat.le_trans hle) (ih.bind fun x _ => .refl _) _
  case other =>
    -- nothing is opened here, so no limit is asked
    rintro ⟨ts, d⟩ hopen
    suffices heq : readAt limit' .primary ⟨ts, d⟩ = readAt limit .primary ⟨ts, d⟩ from .inr heq
    cases ts with
    | nil => rw [readAt_nil, readAt_nil]
    | cons t ts =>
        by_cases hoperand : t.kind = .operand
        · cases htext : t.text with
          | nil => rw [readAt_unnamed hoperand htext, readAt_unnamed hoperand htext]
          | cons name cs => rw [readAt_operand hoperand htext, readAt_operand hoperand htext]
        · rw [readAt_other (hopen t rfl) hoperand, readAt_other (hopen t rfl) hoperand]

/-- With more levels allowed, the same tokens are read as the same formula,
    unless the levels were what was refused. -/
theorem ofTokens_agreesUnless (hle : limit ≤ limit') (ts : List Token) :
    AgreesUnless (.nestingTooDeep limit) (ofTokens limit ts) (ofTokens limit' ts) := by
  rw [ofTokens_eq, ofTokens_eq]
  exact ((readAt_agreesUnless hle).1 _ _).bind fun x _ => .refl _

end Formula

-- ── Texts ──────────────────────────────────────────────────────────

/-- Limits that allow no more than others. -/
instance : LE Limits where
  le l l' := l.maxLength ≤ l'.maxLength ∧ l.maxDepth ≤ l'.maxDepth ∧
    l.maxVariables ≤ l'.maxVariables ∧ l.maxDevices ≤ l'.maxDevices

/-- Whether a failure reports that a text exceeds a limit. -/
def Error.reportsTextLimit : Error → Bool
  | .inputTooLong _ _ => true
  | .nestingTooDeep _ => true
  | _ => false

namespace Expression

variable {limits limits' : Limits}

/-- **Under larger limits a text reads the same**, unless the smaller
    limits refuse its length or its nesting. -/
theorem read_of_le (h : limits ≤ limits') (source : List Char) :
    read limits source
        = .error (.inputTooLong (Spelling.canonical source).length limits.maxLength) ∨
      AgreesUnless (.nestingTooDeep limits.maxDepth)
        ((read limits source).map ({ · with limits := limits' })) (read limits' source) := by
  obtain ⟨hlength, hdepth, -, -⟩ := h
  simp only [read]
  by_cases hlong : (Spelling.canonical source).length > limits.maxLength
  · exact .inl (if_pos hlong)
  · right
    rw [if_neg hlong, if_neg fun hlong' => hlong (Nat.lt_of_le_of_lt hlength hlong')]
    cases Token.ofText (Spelling.canonical source) with
    | error e => exact .refl _
    | ok tokens =>
        rcases Formula.ofTokens_agreesUnless hdepth tokens with hdeep | hsame
        · simp only [hdeep]
          exact .inl rfl
        · simp only [hsame]
          cases Formula.ofTokens limits.maxDepth tokens <;> exact .refl _

end Expression

-- ── Tables and circuits ────────────────────────────────────────────

/-- With more columns allowed, the same table is built. -/
theorem TruthTable.build_agreesUnless {maxVariables maxVariables' : Nat}
    (hle : maxVariables ≤ maxVariables') (e : Formula) (columns : List Char) :
    AgreesUnless (.tooManyVariables columns.length maxVariables)
      (build e columns maxVariables) (build e columns maxVariables') := by
  rw [build, build]
  exact .refusal (Nat.lt_of_le_of_lt hle) (.refl _) _

/-- With more devices allowed, the same circuit is synthesized. -/
theorem Circuit.synthesize_agreesUnless {maxDevices maxDevices' : Nat}
    (hle : maxDevices ≤ maxDevices') (e : Formula) :
    AgreesUnless (.networkTooLarge e.seed.1.expandedSize maxDevices)
      (synthesize e maxDevices) (synthesize e maxDevices') := by
  simp only [synthesize]
  exact .refusal (Nat.lt_of_le_of_lt hle) (.refl _) _

-- ── All limits at once ─────────────────────────────────────────────

/-- **Limits only cut off.**  Under larger limits a text reads the same,
    as a result or as a failure, unless the smaller ones refuse its length
    or its nesting; what the larger ones refuse so, the smaller ones
    refuse so too; and tables and circuits are the same unless the
    smaller limit refuses their columns or their devices. -/
theorem Expression.outcomes_of_le {limits limits' : Limits} (h : limits ≤ limits') :
    (∀ source,
      (∃ err, read limits source = .error err ∧ err.reportsTextLimit = true) ∨
        read limits' source = (read limits source).map ({ · with limits := limits' })) ∧
    (∀ source err, read limits' source = .error err → err.reportsTextLimit = true →
      ∃ err', read limits source = .error err' ∧ err'.reportsTextLimit = true) ∧
    (∀ e columns,
      (∃ found, TruthTable.build e columns limits.maxVariables
          = .error (.tooManyVariables found limits.maxVariables)) ∨
        TruthTable.build e columns limits'.maxVariables
          = TruthTable.build e columns limits.maxVariables) ∧
    ∀ e,
      (∃ devices, Circuit.synthesize e limits.maxDevices
          = .error (.networkTooLarge devices limits.maxDevices)) ∨
        Circuit.synthesize e limits'.maxDevices = Circuit.synthesize e limits.maxDevices := by
  have hread : ∀ source,
      (∃ err, read limits source = .error err ∧ err.reportsTextLimit = true) ∨
        read limits' source = (read limits source).map ({ · with limits := limits' }) := by
    intro source
    rcases read_of_le h source with hlong | hdeep | hsame
    · exact .inl ⟨_, hlong, rfl⟩
    · exact .inl ⟨_, eq_error_of_map hdeep, rfl⟩
    · exact .inr hsame
  obtain ⟨-, -, hvariables, hdevices⟩ := h
  refine ⟨hread, fun source err herr hlimit => ?_, fun e columns => ?_, fun e => ?_⟩
  · rcases hread source with hexceeds | hsame
    · exact hexceeds
    · -- where the outcome stays the same, the smaller limits refuse the text too
      rw [hsame] at herr
      exact ⟨err, eq_error_of_map herr, hlimit⟩
  · exact (TruthTable.build_agreesUnless hvariables e columns).imp_left fun hmany => ⟨_, hmany⟩
  · exact (Circuit.synthesize_agreesUnless hdevices e).imp_left fun hlarge => ⟨_, hlarge⟩

/-- The text `a xor b` just fits the smaller limits, which refuse its
    circuit: it reads the same under the usual ones. -/
theorem Expression.outcomes_of_le_xor :
    let e := Formula.xor (.leaf 'a') (.leaf 'b')
    let small : Limits := ⟨7, 0, 16, 3⟩
    small ≤ Limits.standard ∧ read small e.text = .ok ⟨e.text, e.text, ['a', 'b'], e, small⟩ ∧
      read Limits.standard e.text
        = .ok ⟨e.text, e.text, ['a', 'b'], e, Limits.standard⟩ ∧
      Circuit.synthesize e small.maxDevices = .error (.networkTooLarge 4 3) := by
  intro e small
  have hle : small ≤ Limits.standard := by
    show 7 ≤ 4096 ∧ 0 ≤ 256 ∧ 16 ≤ 16 ∧ 3 ≤ 65536
    omega
  have hleaves : e.leaves.all Signal.isWritable = true := by decide
  have hread : read small e.text = .ok ⟨e.text, e.text, ['a', 'b'], e, small⟩ := by
    rw [Formula.read_text (List.all_eq_true.mp hleaves), if_neg (by decide), if_pos (by decide)]
    rfl
  refine ⟨hle, hread, ?_, rfl⟩
  rcases (outcomes_of_le hle).1 e.text with ⟨err, herr, -⟩ | hsame
  · rw [hread] at herr
    cases herr
  · rw [hsame, hread]
    rfl

end SwitchLogic
