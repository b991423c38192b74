import SwitchLogic.Formula.Text

/-! # The LaTeX form of a formula

    Leaves are set in capitals, complements as overlines, and the three
    families as a centred dot, a circled plus and a plus.  An inverting
    connective is its plain member under an overline, so the overline
    already groups it and no parentheses are needed around it. -/

namespace SwitchLogic.Formula

/-- The operator sign of a family. -/
def familySign : Family → List Char
  | .conjunctive => "\\cdot".toList
  | .exclusive => "\\oplus".toList
  | .disjunctive => ['+']

/-- Whether the root is drawn as an overlined connective. -/
def isOverlinedConnective : Formula → Bool
  | .binary op _ _ => op.inverting
  | _ => false

/-- The start and end of an overline, and of a pair of parentheses. -/
def overlineOpen : List Char := "\\overline\x7b".toList

@[inherit_doc overlineOpen] def overlineClose : List Char := ['\x7d']

@[inherit_doc overlineOpen] def bracketOpen : List Char := "\\left(".toList

@[inherit_doc overlineOpen] def bracketClose : List Char := "\\right)".toList

/-- Whether an operand is bracketed under a connective. -/
def needsBrackets (parent : Connective) (side : Side) (e : Formula) : Bool :=
  !e.isOverlinedConnective && e.needsParentheses parent side

/-- The LaTeX form of a formula, in front of what follows it. -/
def latexBefore : Formula → List Char → List Char
  | .leaf c, rest => Signal.capital c :: rest
  | .not a, rest => overlineOpen ++ a.latexBefore (overlineClose ++ rest)
  | .binary op a b, rest =>
      let rest := if op.inverting then overlineClose ++ rest else rest
      let right :=
        if b.needsBrackets op.plain .right then
          bracketOpen ++ b.latexBefore (bracketClose ++ rest)
        else b.latexBefore rest
      let infixed := ' ' :: (familySign op.family ++ ' ' :: right)
      let body :=
        if a.needsBrackets op.plain .left then
          bracketOpen ++ a.latexBefore (bracketClose ++ infixed)
        else a.latexBefore infixed
      if op.inverting then overlineOpen ++ body else body

/-- The LaTeX form of a formula. -/
def latex (e : Formula) : List Char := e.latexBefore []

-- ── The form as a concatenation ────────────────────────────────────

theorem latexBefore_nil (e : Formula) : e.latexBefore [] = e.latex := rfl

/-- What follows a formula does not change its typeset form. -/
theorem latexBefore_eq (e : Formula) (rest : List Char) :
    e.latexBefore rest = e.latex ++ rest := by
  induction e generalizing rest with
  | leaf c => rfl
  | not a ih =>
      rw [← latexBefore_nil]
      simp only [latexBefore, ih (overlineClose ++ _)]
      simp
  | binary op a b iha ihb =>
      rw [← latexBefore_nil]
      simp only [latexBefore, iha (_ :: _), iha (bracketClose ++ _)]
      cases op.inverting <;> cases a.needsBrackets op.plain .left <;>
        cases b.needsBrackets op.plain .right <;> simp [ihb]

/-- The LaTeX form of an operand, bracketed where needed. -/
def operandLatex (bracketed : Bool) (e : Formula) : List Char :=
  if bracketed then bracketOpen ++ (e.latex ++ bracketClose) else e.latex

/-- A text under an overline. -/
def overlined (s : List Char) : List Char := overlineOpen ++ (s ++ overlineClose)

@[simp] theorem latex_leaf (c : Char) : (leaf c).latex = [Signal.capital c] := rfl

theorem latex_not (a : Formula) : (Formula.not a).latex = overlined a.latex := by
  rw [← latexBefore_nil]
  simp [latexBefore, overlined, latexBefore_eq]

theorem latex_binary (op : Connective) (a b : Formula) :
    (binary op a b).latex =
      (let body :=
        operandLatex (a.needsBrackets op.plain .left) a
          ++ ' ' :: (familySign op.family
            ++ ' ' :: operandLatex (b.needsBrackets op.plain .right) b)
      if op.inverting then overlined body else body) := by
  rw [← latexBefore_nil]
  simp only [latexBefore, operandLatex, overlined, latexBefore_eq]
  cases op.inverting <;> cases a.needsBrackets op.plain .left <;>
    cases b.needsBrackets op.plain .right <;> simp

end SwitchLogic.Formula
