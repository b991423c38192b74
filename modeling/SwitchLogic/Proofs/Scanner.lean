import SwitchLogic.Proofs.Grammar

/-! # Reading in one pass

    A scanner decides from left to right whether a list of tokens is
    read, and which failure is reported.  It knows only whether an
    operand is expected or complete, and the levels that are open: one
    frame for each parenthesis without its partner, and one for each
    leading complement whose operand is not complete.

    The productions return in the order in which the scanner closes its
    frames.  Reading one production is therefore the same as scanning up
    to where it ends, in any context of open levels.  Frames of
    complements need no care: once an operand is complete, they make no
    difference any more (`run_complete_complement`). -/

namespace SwitchLogic

/-- A level that is open. -/
inductive Frame where
  | opening
  | complement
  deriving DecidableEq

/-- The states of the scanner, with the open levels, innermost first. -/
inductive Scan where
  | expecting (frames : List Frame)
  | complete (frames : List Frame)

namespace Scan

/-- Opens a level. -/
def push (limit : Nat) (frame : Frame) (frames : List Frame) : Except Error Scan :=
  if limit < (frame :: frames).length then .error (.nestingTooDeep limit)
  else .ok (.expecting (frame :: frames))

/-- The levels left when the complements of a complete operand end. -/
def settle (frames : List Frame) : List Frame := frames.dropWhile (· = .complement)

/-- The failure where a complete operand cannot be gone on with. -/
def refusal : List Frame → Error
  | [] => .trailingTokens
  | _ :: _ => .missingClosing

/-- The state behind one more token. -/
def step (limit : Nat) : Scan → Token → Except Error Scan
  | .expecting frames, t =>
      match t.kind with
      | .opening => push limit .opening frames
      | .complement => push limit .complement frames
      | .operand =>
          if t.text = [] then .error (.inconsistent (.unnamedOperand t.position))
          else .ok (.complete frames)
      | _ => .error (.unexpectedToken t)
  | .complete frames, t =>
      if t.isBang then .ok (.complete frames)
      else match t.kind, settle frames with
        | .connective _, outer => .ok (.expecting outer)
        | .closing, _ :: outer => .ok (.complete outer)
        | _, outer => .error (refusal outer)

/-- The verdict at the end of the tokens. -/
def finish : Scan → Except Error Unit
  | .expecting _ => .error .unexpectedEnd
  | .complete frames => if (settle frames).isEmpty then .ok () else .error .missingClosing

/-- The verdict on a list of tokens. -/
def run (limit : Nat) : Scan → List Token → Except Error Unit
  | state, [] => state.finish
  | state, t :: ts =>
      match state.step limit t with
      | .error e => .error e
      | .ok next => next.run limit ts

variable {limit : Nat}

-- ── Behind a complete operand ──────────────────────────────────────

theorem settle_complement (frames : List Frame) :
    settle (.complement :: frames) = settle frames := by
  simp [settle]

theorem settle_opening (frames : List Frame) :
    settle (.opening :: frames) = .opening :: frames := by
  simp [settle]

/-- The complements of a complete operand make no difference. -/
theorem run_complete_complement (frames : List Frame) (ts : List Token) :
    run limit (.complete (.complement :: frames)) ts = run limit (.complete frames) ts := by
  induction ts with
  | nil => simp only [run, finish, settle_complement]
  | cons t ts ih =>
      simp only [run, step, settle_complement]
      by_cases ht : t.isBang = true
      · rw [if_pos ht, if_pos ht]
        exact ih
      · rw [if_neg ht, if_neg ht]

/-- A trailing complement leaves the operand complete. -/
theorem run_complete_bang {t : Token} (ht : t.isBang = true) (frames : List Frame)
    (ts : List Token) :
    run limit (.complete frames) (t :: ts) = run limit (.complete frames) ts := by
  simp only [run, step, if_pos ht]

/-- So do all trailing complements together. -/
theorem run_complete_complementBangs (frames : List Frame) (a : Formula) (ts : List Token) :
    run limit (.complete frames) (Formula.complementBangs a ts).2
      = run limit (.complete frames) ts := by
  induction ts generalizing a with
  | nil => rfl
  | cons t ts ih =>
      simp only [Formula.complementBangs]
      by_cases ht : t.isBang = true
      · rw [if_pos ht, ih, run_complete_bang ht]
      · rw [if_neg ht]

/-- Behind a connective the next operand is expected, in the levels that
    are still open. -/
theorem run_complete_connective {t : Token} {op : Connective} (hkind : t.kind = .connective op)
    {frames : List Frame} (hsettled : settle frames = frames) (ts : List Token) :
    run limit (.complete frames) (t :: ts) = run limit (.expecting frames) ts := by
  have hbang : t.isBang = false := Formula.not_isBang_of_kind (by simp [hkind])
  simp [run, step, hbang, hkind, hsettled]

/-- Where a disjunction ends, a closing parenthesis closes a level and
    every other token is refused. -/
theorem step_complete_of_stops {u : Token}
    (h : (Formula.Production.chain .disjunctive).continues u = false) (frames : List Frame) :
    step limit (.complete frames) u
      = match u.kind, settle frames with
        | .closing, _ :: outer => .ok (.complete outer)
        | _, outer => .error (refusal outer) := by
  simp only [Formula.Production.continues, Bool.or_eq_false_iff] at h
  obtain ⟨hbang, hop⟩ := h
  simp only [step, hbang, Bool.false_eq_true, if_false]
  cases hkind : u.kind with
  | connective op =>
      obtain ⟨f, inverting⟩ := op
      rw [hkind] at hop
      cases f <;> simp [Family.rank] at hop
  | _ => cases settle frames <;> rfl

/-- Behind the body of a parenthesis stands its partner or a failure. -/
theorem run_complete_opening (frames : List Frame) (body : Formula) {c : Formula.Cursor}
    (hstops : Formula.Stops (.chain .disjunctive) c.rest) :
    run limit (.complete (.opening :: frames)) c.rest
      = (Formula.closeAt body c).bind fun x => run limit (.complete frames) x.2.rest := by
  obtain ⟨ts, d⟩ := c
  cases ts with
  | nil => rfl
  | cons u us =>
      simp only [run, step_complete_of_stops (Formula.stops_cons.mp hstops), settle_opening,
        Formula.closeAt]
      cases u.kind <;> rfl

/-- Behind a whole formula nothing may be left. -/
theorem run_complete_nil {ts : List Token} (hstops : Formula.Stops (.chain .disjunctive) ts) :
    run limit (.complete []) ts = if ts.isEmpty then .ok () else .error .trailingTokens := by
  cases ts with
  | nil => rfl
  | cons u us =>
      simp only [run, step_complete_of_stops (Formula.stops_cons.mp hstops)]
      cases u.kind <;> rfl

-- ── In front of an operand ─────────────────────────────────────────

/-- Scanning goes on in a new level, if one more may be opened. -/
theorem run_push (frame : Frame) (frames : List Frame) (ts : List Token) :
    (match push limit frame frames with
      | .error e => .error e
      | .ok next => run limit next ts)
      = if limit ≤ frames.length then .error (.nestingTooDeep limit)
        else run limit (.expecting (frame :: frames)) ts := by
  by_cases h : limit ≤ frames.length
  · rw [push, List.length_cons, if_pos (Nat.lt_succ_of_le h), if_pos h]
  · rw [push, List.length_cons, if_neg fun h' => h (Nat.le_of_lt_succ h'), if_neg h]

/-- A parenthesis opens a level where an operand is expected. -/
theorem run_expecting_opening {t : Token} (h : t.kind = .opening) (frames : List Frame)
    (ts : List Token) :
    run limit (.expecting frames) (t :: ts)
      = if limit ≤ frames.length then .error (.nestingTooDeep limit)
        else run limit (.expecting (.opening :: frames)) ts := by
  simp only [run, step, h]
  exact run_push .opening frames ts

/-- A leading complement opens a level too. -/
theorem run_expecting_complement {t : Token} (h : t.kind = .complement) (frames : List Frame)
    (ts : List Token) :
    run limit (.expecting frames) (t :: ts)
      = if limit ≤ frames.length then .error (.nestingTooDeep limit)
        else run limit (.expecting (.complement :: frames)) ts := by
  simp only [run, step, h]
  exact run_push .complement frames ts

/-- An operand is complete. -/
theorem run_expecting_operand {t : Token} {c : Char} {cs : List Char} (h : t.kind = .operand)
    (htext : t.text = c :: cs) (frames : List Frame) (ts : List Token) :
    run limit (.expecting frames) (t :: ts) = run limit (.complete frames) ts := by
  simp [run, step, h, htext]

/-- An operand without a text is a fault. -/
theorem run_expecting_unnamed {t : Token} (h : t.kind = .operand) (htext : t.text = [])
    (frames : List Frame) (ts : List Token) :
    run limit (.expecting frames) (t :: ts)
      = .error (.inconsistent (.unnamedOperand t.position)) := by
  simp [run, step, h, htext]

/-- Any other token is refused where an operand is expected. -/
theorem run_expecting_other {t : Token} (hopen : t.kind ≠ .opening)
    (hcomplement : t.kind ≠ .complement) (hoperand : t.kind ≠ .operand) (frames : List Frame)
    (ts : List Token) :
    run limit (.expecting frames) (t :: ts) = .error (.unexpectedToken t) := by
  cases hkind : t.kind with
  | opening => exact absurd hkind hopen
  | complement => exact absurd hkind hcomplement
  | operand => exact absurd hkind hoperand
  | _ => simp only [run, step, hkind]

-- ── Productions scan as they read ──────────────────────────────────

/-- Where the scanner and a production agree on what comes next: no
    complement waits for a whole chain, and below the complements none is
    left to read. -/
def Agrees : Formula.Production → List Frame → List Token → Prop
  | .chain _, frames, _ => settle frames = frames
  | .complement, _, _ => True
  | _, _, ts => ∀ t ∈ ts.head?, t.kind ≠ .complement

/-- Operands of a chain are scanned where the chain is. -/
theorem agrees_operandOf {f : Family} {frames : List Frame} (h : settle frames = frames)
    (ts : List Token) : Agrees (Formula.operandOf f) frames ts := by
  cases f <;> first | exact h | trivial

open Formula in
/-- **Reading is scanning.**  In any context of open levels, scanning
    from where a production begins is reading the production and scanning
    on from where it ends. -/
theorem run_eq_readAt (limit : Nat) :
    (∀ p c, c.depth ≤ limit → ∀ frames, frames.length = c.depth → Agrees p frames c.rest →
      run limit (.expecting frames) c.rest
        = (readAt limit p c).bind fun x => run limit (.complete frames) x.2.rest) ∧
    ∀ f a c, c.depth ≤ limit → ∀ frames, frames.length = c.depth → settle frames = frames →
      run limit (.complete frames) c.rest
        = (extendAt limit f a c).bind fun x => run limit (.complete frames) x.2.rest := by
  refine readAt_induction limit ?chain ?stop ?step ?complement ?plain ?suffixed
    ?opening ?other
  case chain =>
    intro f c ihop ihext hd frames hlen hsettled
    rw [ihop hd frames hlen (agrees_operandOf hsettled _), readAt_chain]
    -- an operand leaves as many levels open as it found, so the frames still fit behind it
    cases h : readAt limit (operandOf f) c with
    | error e => rfl
    | ok x =>
        have hdepth : x.2.depth = c.depth := depth_of_readAt hd h
        exact ihext x.1 x.2 h (hdepth ▸ hd) frames (hdepth ▸ hlen) hsettled
  case stop =>
    intro f a c hnone _ frames _ _
    rw [extendAt_of_none hnone]
    rfl
  case step =>
    intro f a t ts d op hop ihop ihext hd frames hlen hsettled
    obtain ⟨hkind, -⟩ := connective?_eq_some.mp hop
    rw [extendAt_of_some hop, run_complete_connective hkind hsettled,
      ihop hd frames hlen (agrees_operandOf hsettled _)]
    cases h : readAt limit (operandOf f) ⟨ts, d⟩ with
    | error e => rfl
    | ok x =>
        have hdepth : x.2.depth = d := depth_of_readAt (c := ⟨ts, d⟩) hd h
        exact ihext x.1 x.2 h (hdepth ▸ hd) frames (hdepth ▸ hlen) hsettled
  case complement =>
    intro t ts d hkind ih hd frames hlen _
    rw [readAt_complement hkind, run_expecting_complement hkind, hlen]
    split
    · rfl
    · rename_i hlt
      -- the sign opens a level, which the end of its operand takes away again
      rw [ih (Nat.lt_of_not_le hlt) (.complement :: frames) (congrArg Nat.succ hlen) trivial]
      cases readAt limit .complement ⟨ts, d + 1⟩ with
      | error e => rfl
      | ok x => exact run_complete_complement frames x.2.rest
  case plain =>
    intro c hne ih hd frames hlen _
    rw [readAt_complement_of_ne hne]
    exact ih hd frames hlen hne
  case suffixed =>
    intro c ih hd frames hlen hne
    rw [ih hd frames hlen hne, readAt_suffixed]
    cases readAt limit .primary c with
    | error e => rfl
    | ok x => exact (run_complete_complementBangs frames x.1 x.2.rest).symm
  case opening =>
    intro t ts d hkind ih hd frames hlen _
    rw [readAt_opening hkind, run_expecting_opening hkind, hlen]
    split
    · rfl
    · rename_i hlt
      have hd' : d + 1 ≤ limit := Nat.lt_of_not_le hlt
      -- what is read inside stops at a token that cannot continue it: the scanner closes there
      rw [ih hd' (.opening :: frames) (congrArg Nat.succ hlen) (settle_opening frames)]
      cases h : readAt limit (.chain .disjunctive) ⟨ts, d + 1⟩ with
      | error e => rfl
      | ok x => exact run_complete_opening frames x.1 (stops_of_readAt (c := ⟨ts, d + 1⟩) hd' h)
  case other =>
    intro c hopen _ frames _ hne
    obtain ⟨ts, d⟩ := c
    cases ts with
    | nil =>
        rw [readAt_nil]
        rfl
    | cons t ts =>
        by_cases hoperand : t.kind = .operand
        · cases htext : t.text with
          | nil =>
              rw [readAt_unnamed hoperand htext, run_expecting_unnamed hoperand htext]
              rfl
          | cons c cs =>
              rw [readAt_operand hoperand htext, run_expecting_operand hoperand htext]
              rfl
        · rw [readAt_other (hopen t rfl) hoperand,
            run_expecting_other (hopen t rfl) (hne t rfl) hoperand]
          rfl

/-- **The verdict of reading is the verdict of one pass.**  A list of
    tokens is read as some formula exactly when the scanner accepts it,
    and otherwise both report the same failure. -/
theorem ofTokens_eq_scan (limit : Nat) (ts : List Token) :
    (Formula.ofTokens limit ts).map (fun _ => ()) = run limit (.expecting []) ts := by
  have hrun := (run_eq_readAt limit).1 (.chain .disjunctive) ⟨ts, 0⟩ (Nat.zero_le limit) []
    rfl rfl
  simp only at hrun
  rw [hrun, Formula.ofTokens_eq]
  cases h : Formula.readAt limit (.chain .disjunctive) ⟨ts, 0⟩ with
  | error e => rfl
  | ok x =>
      have hstops : Formula.Stops (.chain .disjunctive) x.2.rest :=
        Formula.stops_of_readAt (c := ⟨ts, 0⟩) (Nat.zero_le limit) h
      simp only [Except.bind, run_complete_nil hstops]
      split <;> rfl

end Scan

end SwitchLogic
