import SwitchLogic.Formula.Basic

/-! # The written form of a formula

    A formula is written with `!` in front of complements and the
    keyword between the operands of a connective.  Parentheses appear
    only where reading the text again would otherwise give another tree:
    around an operand that binds more loosely than its parent, around a
    right operand that binds equally tightly, since connectives of one
    family associate to the left, and around a connective under a
    complement.

    Writing in front of the text that follows keeps the work linear in
    the length of the result. -/

namespace SwitchLogic.Formula

/-- The two places of an operand. -/
inductive Side where
  | left
  | right
  deriving DecidableEq

/-- Whether the root of a formula is a binary connective. -/
def isBinary : Formula → Bool
  | .binary .. => true
  | _ => false

/-- Whether an operand needs parentheses under a connective. -/
def needsParentheses (parent : Connective) (side : Side) : Formula → Bool
  | .binary op _ _ =>
      match side with
      | .left => decide (op.family.rank < parent.family.rank)
      | .right => decide (op.family.rank ≤ parent.family.rank)
  | _ => false

/-- The written form of a formula, in front of what follows it. -/
def textBefore : Formula → List Char → List Char
  | .leaf c, rest => c :: rest
  | .not a, rest =>
      if a.isBinary then '!' :: '(' :: a.textBefore (')' :: rest)
      else '!' :: a.textBefore rest
  | .binary op a b, rest =>
      let right :=
        if b.needsParentheses op .right then '(' :: b.textBefore (')' :: rest)
        else b.textBefore rest
      let infixed := ' ' :: (op.keyword ++ ' ' :: right)
      if a.needsParentheses op .left then '(' :: a.textBefore (')' :: infixed)
      else a.textBefore infixed

/-- The written form of a formula. -/
def text (e : Formula) : List Char := e.textBefore []

instance : ToString Formula := ⟨fun e => String.ofList e.text⟩

-- ── The form as a concatenation ────────────────────────────────────

theorem textBefore_nil (e : Formula) : e.textBefore [] = e.text := rfl

/-- What follows a formula does not change its written form. -/
theorem textBefore_eq (e : Formula) (rest : List Char) :
    e.textBefore rest = e.text ++ rest := by
  induction e generalizing rest with
  | leaf c => rfl
  | not a ih =>
      rw [← textBefore_nil]
      simp only [textBefore, ih (')' :: rest), ih [')'], ih rest, ih []]
      split <;> simp
  | binary op a b iha ihb =>
      rw [← textBefore_nil]
      simp only [textBefore, iha (_ :: _), ihb rest, ihb [], ihb (_ :: _)]
      split <;> split <;> simp

/-- The written form of an operand, in parentheses where needed. -/
def operandText (parenthesised : Bool) (e : Formula) : List Char :=
  if parenthesised then '(' :: (e.text ++ [')']) else e.text

@[simp] theorem text_leaf (c : Char) : (leaf c).text = [c] := rfl

theorem text_not (a : Formula) :
    (Formula.not a).text = '!' :: operandText a.isBinary a := by
  rw [← textBefore_nil]
  simp only [textBefore, operandText, textBefore_eq]
  split <;> simp

theorem text_binary (op : Connective) (a b : Formula) :
    (binary op a b).text =
      operandText (a.needsParentheses op .left) a
        ++ ' ' :: (op.keyword ++ ' ' :: operandText (b.needsParentheses op .right) b) := by
  rw [← textBefore_nil]
  simp only [textBefore, operandText, textBefore_eq]
  split <;> split <;> simp

end SwitchLogic.Formula
