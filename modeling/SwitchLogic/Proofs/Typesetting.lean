import Mathlib.Data.List.Nodup
import SwitchLogic.Formula.Latex
import SwitchLogic.Proofs.PlainForm
import SwitchLogic.Proofs.RoundTrip
import SwitchLogic.Proofs.Tabulation

/-! # The LaTeX form is unambiguous

    The LaTeX form is a row of marks: names, operator signs, and the
    openings and closings of overlines and brackets.  It can be taken
    apart in one way only, for two reasons.  No mark starts with another
    one, so the text determines the marks.  And the marks are tokens of
    the grammar of formulas in another dress: an overline is a complement
    of a parenthesised formula, and a bracket is a parenthesis.  So the
    marks derive a formula, and the grammar is unambiguous.

    The formula that they derive is the plain form.  An inverting
    connective is drawn as its plain member under an overline, and that
    is all that is lost. -/

namespace SwitchLogic

-- ── Capitals ───────────────────────────────────────────────────────

namespace Signal

/-- Capitals keep the leaves of written expressions apart. -/
theorem eq_of_capital_eq {c d : Char} (hc : isWritable c = true) (hd : isWritable d = true)
    (h : capital c = capital d) : c = d := by
  have hnodup : (('0' :: '1' :: letters).map capital).Nodup := by decide
  exact List.inj_on_of_nodup_map hnodup (isWritable_iff_mem.mp hc) (isWritable_iff_mem.mp hd) h

/-- No capital starts an overline, a bracket or an operator sign. -/
theorem capital_ne {c x : Char} (hc : isWritable c = true) (hx : x ∈ ['\\', '\x7d', ' ']) :
    capital c ≠ x := by
  have hall : ('0' :: '1' :: letters).all
      (fun c => ['\\', '\x7d', ' '].all fun x => capital c ≠ x) = true := by decide
  simpa using List.all_eq_true.mp (List.all_eq_true.mp hall c (isWritable_iff_mem.mp hc)) x hx

end Signal

-- ── Marks ──────────────────────────────────────────────────────────

/-- What the LaTeX form of a formula is made of. -/
inductive Mark where
  | name (c : Char)
  | sign (family : Family)
  | bracketOpen
  | bracketClose
  | overlineOpen
  | overlineClose

namespace Mark

/-- How a mark is written in LaTeX. -/
def text : Mark → List Char
  | .name c => [Signal.capital c]
  | .sign f => ' ' :: (Formula.familySign f ++ [' '])
  | .bracketOpen => Formula.bracketOpen
  | .bracketClose => Formula.bracketClose
  | .overlineOpen => Formula.overlineOpen
  | .overlineClose => Formula.overlineClose

/-- The tokens that a mark stands for. -/
def tokens : Mark → List Token
  | .name c => [⟨.operand, [c], 0⟩]
  | .sign f => [⟨.connective ⟨f, false⟩, Connective.keyword ⟨f, false⟩, 0⟩]
  | .bracketOpen => [⟨.opening, ['('], 0⟩]
  | .bracketClose => [⟨.closing, [')'], 0⟩]
  | .overlineOpen => [⟨.complement, ['!'], 0⟩, ⟨.opening, ['('], 0⟩]
  | .overlineClose => [⟨.closing, [')'], 0⟩]

/-- Whether a mark may occur in the form of a written expression. -/
def isReadable : Mark → Bool
  | .name c => Signal.isWritable c
  | _ => true

/-- No mark is typeset as nothing. -/
theorem exists_text_eq (m : Mark) : ∃ c s, m.text = c :: s := by
  cases m <;> exact ⟨_, _, rfl⟩

/-- **No mark starts with another.** -/
theorem eq_of_text_append {m m' : Mark} (hm : m.isReadable = true) (hm' : m'.isReadable = true)
    {rest rest' : List Char} (h : m.text ++ rest = m'.text ++ rest') :
    m = m' ∧ rest = rest' := by
  -- all marks but the names are fixed texts, which either clash or are the same
  cases m with
  | name c =>
      cases m' with
      | name d =>
          obtain ⟨hcapital, hrest⟩ := List.cons.inj h
          exact ⟨congrArg name (Signal.eq_of_capital_eq hm hm' hcapital), hrest⟩
      | _ => exact absurd (List.cons.inj h).1 (Signal.capital_ne hm (by decide))
  | sign f =>
      cases m' with
      | name d => exact absurd (List.cons.inj h).1.symm (Signal.capital_ne hm' (by decide))
      | sign g => cases f <;> cases g <;> cases h <;> exact ⟨rfl, rfl⟩
      | _ => cases h
  | _ =>
      cases m' with
      | name d => exact absurd (List.cons.inj h).1.symm (Signal.capital_ne hm' (by decide))
      | _ => cases h <;> exact ⟨rfl, rfl⟩

/-- **The text determines the marks.** -/
theorem eq_of_flatMap_text_eq {ms ms' : List Mark} (hms : ∀ m ∈ ms, m.isReadable = true)
    (hms' : ∀ m ∈ ms', m.isReadable = true) (h : ms.flatMap text = ms'.flatMap text) :
    ms = ms' := by
  induction ms generalizing ms' with
  | nil =>
      cases ms' with
      | nil => rfl
      | cons m' rest' =>
          obtain ⟨c, s, hs⟩ := m'.exists_text_eq
          rw [List.flatMap_cons, hs] at h
          cases h
  | cons m rest ih =>
      cases ms' with
      | nil =>
          obtain ⟨c, s, hs⟩ := m.exists_text_eq
          rw [List.flatMap_cons, hs] at h
          cases h
      | cons m' rest' =>
          rw [List.flatMap_cons, List.flatMap_cons] at h
          obtain ⟨rfl, hrest⟩ := eq_of_text_append (hms m List.mem_cons_self)
            (hms' m' List.mem_cons_self) h
          have hsame := ih (fun x hx => hms x (List.mem_cons_of_mem m hx))
            (fun x hx => hms' x (List.mem_cons_of_mem m hx)) hrest
          rw [hsame]

end Mark

-- ── The marks of a formula ─────────────────────────────────────────

namespace Formula

/-- Some marks under an overline. -/
def overlinedMarks (ms : List Mark) : List Mark := .overlineOpen :: (ms ++ [.overlineClose])

/-- The marks of an operand, bracketed where needed. -/
def operandMarks (bracketed : Bool) (ms : List Mark) : List Mark :=
  if bracketed then .bracketOpen :: (ms ++ [.bracketClose]) else ms

/-- The marks of two operands and of the sign between them. -/
def infixMarks (op : Connective) (a b : Formula) (ms ns : List Mark) : List Mark :=
  operandMarks (a.needsBrackets op.plain .left) ms
    ++ .sign op.family :: operandMarks (b.needsBrackets op.plain .right) ns

/-- The marks of the LaTeX form. -/
def marks : Formula → List Mark
  | .leaf c => [.name c]
  | .not a => overlinedMarks a.marks
  | .binary op a b =>
      let body := infixMarks op a b a.marks b.marks
      if op.inverting then overlinedMarks body else body

/-- Marks with a line over them are typeset with a line over their text. -/
theorem text_overlinedMarks (ms : List Mark) :
    (overlinedMarks ms).flatMap Mark.text = overlined (ms.flatMap Mark.text) := by
  rw [overlinedMarks, List.flatMap_cons, List.flatMap_append, List.flatMap_singleton]
  rfl

/-- The marks of an operand are typeset as the operand is. -/
theorem text_operandMarks (bracketed : Bool) {a : Formula}
    (h : a.marks.flatMap Mark.text = a.latex) :
    (operandMarks bracketed a.marks).flatMap Mark.text = operandLatex bracketed a := by
  cases bracketed with
  | false => exact h
  | true =>
      show (Mark.bracketOpen :: (a.marks ++ [.bracketClose])).flatMap Mark.text = _
      rw [List.flatMap_cons, List.flatMap_append, List.flatMap_singleton, h]
      rfl

/-- **The marks write the LaTeX form.** -/
theorem text_marks (e : Formula) : e.marks.flatMap Mark.text = e.latex := by
  induction e with
  | leaf c => rfl
  | not a ih => rw [marks, text_overlinedMarks, ih, latex_not]
  | binary op a b iha ihb =>
      have hbody : (infixMarks op a b a.marks b.marks).flatMap Mark.text
          = operandLatex (a.needsBrackets op.plain .left) a
            ++ ' ' :: (familySign op.family
              ++ ' ' :: operandLatex (b.needsBrackets op.plain .right) b) := by
        rw [infixMarks, List.flatMap_append, List.flatMap_cons, text_operandMarks _ iha,
          text_operandMarks _ ihb]
        simp [Mark.text]
      rw [marks, latex_binary, ← hbody]
      cases op.inverting with
      | false => rfl
      | true => exact text_overlinedMarks _

/-- A line over some marks does not make them less readable. -/
theorem isReadable_overlinedMarks (ms : List Mark) :
    (overlinedMarks ms).all Mark.isReadable = ms.all Mark.isReadable := by
  simp [overlinedMarks, Mark.isReadable]

/-- Nor do brackets around them. -/
theorem isReadable_operandMarks (bracketed : Bool) (ms : List Mark) :
    (operandMarks bracketed ms).all Mark.isReadable = ms.all Mark.isReadable := by
  cases bracketed with
  | false => rfl
  | true => simp [operandMarks, Mark.isReadable]

/-- Names are the only marks that may be unreadable. -/
theorem isReadable_marks (e : Formula) :
    e.marks.all Mark.isReadable = e.leaves.all Signal.isWritable := by
  induction e with
  | leaf c => rfl
  | not a ih => rw [marks, isReadable_overlinedMarks, ih, leaves]
  | binary op a b iha ihb =>
      have hbody : (infixMarks op a b a.marks b.marks).all Mark.isReadable
          = (binary op a b).leaves.all Signal.isWritable := by
        rw [infixMarks, List.all_append, List.all_cons, isReadable_operandMarks,
          isReadable_operandMarks, iha, ihb, leaves, List.all_append]
        rfl
      rw [marks, ← hbody]
      cases op.inverting with
      | false => rfl
      | true => exact isReadable_overlinedMarks _

-- ── Marks as tokens ────────────────────────────────────────────────

/-- A formula whose marks are a derivation of its plain form. -/
def Typesets (e : Formula) : Prop :=
  ∃ n, Derives e.plainForm.outermost (e.marks.flatMap Mark.tokens) e.plainForm n

/-- An overline is a complement of a parenthesised formula. -/
theorem derives_overlinedMarks {p : Production} {ms : List Mark} {e : Formula} {n : Nat}
    (h : Derives p (ms.flatMap Mark.tokens) e n) :
    Derives .complement ((overlinedMarks ms).flatMap Mark.tokens) (.not e) (n + 1 + 1) := by
  have hprimary : Derives .primary _ e (n + 1) :=
    h.enclosed (t := ⟨.opening, ['('], 0⟩) (u := ⟨.closing, [')'], 0⟩) rfl rfl
  rw [overlinedMarks, List.flatMap_cons, List.flatMap_append, List.flatMap_singleton]
  exact Derives.complement (t := ⟨.complement, ['!'], 0⟩) rfl hprimary.primary.suffixed

/-- Brackets stand around an operand exactly where its plain form needs
    parentheses. -/
theorem needsBrackets_eq (op : Connective) (side : Side) (a : Formula) :
    a.needsBrackets op side
      = decide ((side.production op).height < a.plainForm.outermost.height) := by
  rw [← needsParentheses_eq]
  cases a with
  | leaf c => rfl
  | not a => rfl
  | binary op' a b =>
      rw [needsBrackets, isOverlinedConnective, plainForm]
      cases h : op'.inverting with
      | false => rw [writtenOut_of_not_inverting h]; rfl
      | true => rw [writtenOut_of_inverting h]; rfl

/-- An operand is derived at its place. -/
theorem Typesets.operand {a : Formula} (h : a.Typesets) (op : Connective) (side : Side) :
    ∃ n, Derives (side.production op)
      ((operandMarks (a.needsBrackets op side) a.marks).flatMap Mark.tokens) a.plainForm n := by
  obtain ⟨n, hder⟩ := h
  rw [needsBrackets_eq]
  by_cases hlooser : (side.production op).height < a.plainForm.outermost.height
  · have hprimary : Derives .primary _ a.plainForm (n + 1) :=
      hder.enclosed (t := ⟨.opening, ['('], 0⟩) (u := ⟨.closing, [')'], 0⟩) rfl rfl
    simp only [hlooser, decide_true, operandMarks, if_true, List.flatMap_cons,
      List.flatMap_append]
    exact ⟨_, hprimary.loosen (height_pos _)⟩
  · simp only [hlooser, decide_false, operandMarks, Bool.false_eq_true, if_false]
    exact ⟨n, hder.loosen (Nat.le_of_not_lt hlooser)⟩

/-- **The marks derive the plain form.** -/
theorem typesets (e : Formula) : e.Typesets := by
  induction e with
  | leaf c => exact ⟨0, .operand rfl rfl⟩
  | not a ih =>
      obtain ⟨n, hder⟩ := ih
      exact ⟨_, derives_overlinedMarks hder⟩
  | binary op a b iha ihb =>
      obtain ⟨m, hdera⟩ := iha.operand op.plain .left
      obtain ⟨n, hderb⟩ := ihb.operand op.plain .right
      have hbody : Derives (.chain op.family)
          ((infixMarks op a b a.marks b.marks).flatMap Mark.tokens)
          (.binary op.plain a.plainForm b.plainForm) (max m n) := by
        rw [infixMarks, List.flatMap_append, List.flatMap_cons]
        exact hdera.connective rfl rfl hderb
      rw [Typesets, marks, plainForm]
      cases h : op.inverting with
      | false =>
          rw [writtenOut_of_not_inverting h, ← Connective.plain_of_not_inverting h]
          exact ⟨_, hbody⟩
      | true =>
          rw [writtenOut_of_inverting h]
          exact ⟨_, derives_overlinedMarks hbody⟩

-- ── The form determines the plain form ─────────────────────────────

/-- Of an inverting connective the form shows the plain member and the
    overline, which is what it shows of the complement. -/
theorem latex_plainForm (e : Formula) : e.plainForm.latex = e.latex := by
  -- where an operand needs brackets is read from its root, along with its form
  refine congrArg Prod.fst (eq_plainForm
    (f := fun e => (e.latex, fun op side => e.needsBrackets op side))
    (fun h => ?_) (fun op a a' b b' ha hb => ?_) (fun op a b h => ?_) e)
  · rw [latex_not, latex_not, (Prod.mk.inj h).1]
    rfl
  · obtain ⟨hla, hba⟩ := Prod.mk.inj ha
    obtain ⟨hlb, hbb⟩ := Prod.mk.inj hb
    have hleft : a.needsBrackets op.plain .left = a'.needsBrackets op.plain .left :=
      congrFun (congrFun hba op.plain) .left
    have hright : b.needsBrackets op.plain .right = b'.needsBrackets op.plain .right :=
      congrFun (congrFun hbb op.plain) .right
    refine Prod.ext ?_ rfl
    simp only [latex_binary, operandLatex, hla, hlb, hleft, hright]
  · have hoverlined : (binary op a b).isOverlinedConnective = true := h
    refine Prod.ext ?_ ?_
    · rw [latex_not, latex_binary, latex_binary, h]
      rfl
    · funext parent side
      show false = (binary op a b).needsBrackets parent side
      rw [needsBrackets, hoverlined]
      rfl

/-- **The form determines the plain form** of a formula over letters and
    constants. -/
theorem plainForm_eq_of_latex_eq {e₁ e₂ : Formula}
    (h₁ : ∀ c ∈ e₁.leaves, Signal.isWritable c = true)
    (h₂ : ∀ c ∈ e₂.leaves, Signal.isWritable c = true) (h : e₁.latex = e₂.latex) :
    e₁.plainForm = e₂.plainForm := by
  have hmarks : e₁.marks = e₂.marks := by
    refine Mark.eq_of_flatMap_text_eq (List.all_eq_true.mp ?_) (List.all_eq_true.mp ?_) ?_
    · rw [isReadable_marks, List.all_eq_true]
      exact h₁
    · rw [isReadable_marks, List.all_eq_true]
      exact h₂
    · rw [text_marks, text_marks, h]
  obtain ⟨m, hder₁⟩ := e₁.typesets
  obtain ⟨n, hder₂⟩ := e₂.typesets
  rw [hmarks] at hder₁
  exact (hder₁.loosen (height_le _)).unique (hder₂.loosen (height_le _))

/-- **The LaTeX form is unambiguous.**  Two formulas over letters and
    constants have the same form exactly when they are the same with
    inverting connectives written out; so they have the same variables
    and the same table over any columns. -/
theorem latex_eq_iff {e₁ e₂ : Formula} (h₁ : ∀ c ∈ e₁.leaves, Signal.isWritable c = true)
    (h₂ : ∀ c ∈ e₂.leaves, Signal.isWritable c = true) :
    (e₁.latex = e₂.latex ↔ e₁.plainForm = e₂.plainForm) ∧
      (e₁.latex = e₂.latex → e₁.letters = e₂.letters ∧
        ∀ columns maxVariables, TruthTable.build e₁ columns maxVariables
          = TruthTable.build e₂ columns maxVariables) := by
  refine ⟨⟨plainForm_eq_of_latex_eq h₁ h₂, fun h => ?_⟩, fun h => ?_⟩
  · rw [← latex_plainForm, h, latex_plainForm]
  · have hplain := plainForm_eq_of_latex_eq h₁ h₂ h
    have hleaves : e₁.leaves = e₂.leaves := by
      rw [← leaves_plainForm, hplain, leaves_plainForm]
    have hvalues : ∀ s, e₁.evaluate s = e₂.evaluate s := by
      intro s
      rw [← evaluate_plainForm, hplain, evaluate_plainForm]
    exact ⟨by rw [letters, letters, hleaves], TruthTable.build_eq_of_evaluate_eq hvalues⟩

/-- The formulas `(a nand b) nor (c xnor 1)` and `!(!(a and b) or (c xnor 1))`
    have the same form, and `a or (b or c)` has another one than
    `(a or b) or c`. -/
theorem latex_eq_iff_nor :
    let e₁ := nor (nand (.leaf 'a') (.leaf 'b')) (xnor (.leaf 'c') (.leaf '1'))
    let e₂ := Formula.not (or (.not (and (.leaf 'a') (.leaf 'b'))) (xnor (.leaf 'c') (.leaf '1')))
    let e₃ := or (.leaf 'a') (or (.leaf 'b') (.leaf 'c'))
    let e₄ := or (or (.leaf 'a') (.leaf 'b')) (.leaf 'c')
    e₁.latex = e₂.latex ∧
      (∀ n, TruthTable.build e₁ ['a', 'b', 'c'] n = TruthTable.build e₂ ['a', 'b', 'c'] n) ∧
      e₃.latex ≠ e₄.latex := by
  intro e₁ e₂ e₃ e₄
  have h₁ : e₁.leaves.all Signal.isWritable = true := by decide
  have h₂ : e₂.leaves.all Signal.isWritable = true := by decide
  have h₃ : e₃.leaves.all Signal.isWritable = true := by decide
  have h₄ : e₄.leaves.all Signal.isWritable = true := by decide
  obtain ⟨hsame, htables⟩ := latex_eq_iff (List.all_eq_true.mp h₁) (List.all_eq_true.mp h₂)
  obtain ⟨hdiffer, -⟩ := latex_eq_iff (List.all_eq_true.mp h₃) (List.all_eq_true.mp h₄)
  have hlatex : e₁.latex = e₂.latex := hsame.mpr rfl
  refine ⟨hlatex, (htables hlatex).2 _, fun h => ?_⟩
  cases hdiffer.mp h

end Formula

end SwitchLogic
