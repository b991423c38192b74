import SwitchLogic.Formula.Basic
import SwitchLogic.Error
import SwitchLogic.NameSet

/-! # Expansion

    Complements are pushed down to the leaves by De Morgan's laws, and
    exclusive connectives are written out as a choice between two
    conjunctions:

        !(a and b)  =  !a or !b             a xor b  =  a and !b or !a and b
        !(a or b)   =  !a and !b            a xnor b =  a and b or !a and !b

    Complemented constants become the other constant.  What is left is
    built from plain conjunctions and disjunctions over leaves and
    complemented variables.

    Each exclusive connective doubles the leaves below it.  The size of
    the expansion is therefore counted beforehand, up to the greatest
    64-bit count. -/

namespace SwitchLogic.Formula

/-- The complement of a leaf: the other rail for a constant. -/
def complementLeaf (c : Char) : Formula :=
  match Signal.constant? c with
  | some v => .constant (!v)
  | none => .not (.leaf c)

/-- The expansion of a formula, or of its complement if `negated`. -/
def expandUnder (negated : Bool) : Formula → Formula
  | .leaf c => if negated then complementLeaf c else .leaf c
  | .not a => a.expandUnder (!negated)
  | .binary op a b =>
      match op.family, negated ^^ op.inverting with
      | .conjunctive, false => .and (a.expandUnder false) (b.expandUnder false)
      | .conjunctive, true => .or (a.expandUnder true) (b.expandUnder true)
      | .disjunctive, false => .or (a.expandUnder false) (b.expandUnder false)
      | .disjunctive, true => .and (a.expandUnder true) (b.expandUnder true)
      | .exclusive, false =>
          .or (.and (a.expandUnder false) (b.expandUnder true))
            (.and (a.expandUnder true) (b.expandUnder false))
      | .exclusive, true =>
          .or (.and (a.expandUnder false) (b.expandUnder false))
            (.and (a.expandUnder true) (b.expandUnder true))

/-- The expansion of a formula. -/
def expand (e : Formula) : Formula := e.expandUnder false

/-- Adds to a set the variables that the expansion of a formula, or of
    its complement if `negated`, uses complemented. -/
def recordComplements (negated : Bool) : Formula → NameSet → NameSet
  | .leaf c, names =>
      if negated && (Signal.constant? c).isNone then names.insert c else names
  | .not a, names => a.recordComplements (!negated) names
  | .binary op a b, names =>
      match op.family, negated ^^ op.inverting with
      | .exclusive, false =>
          let left := b.recordComplements true (a.recordComplements false names)
          b.recordComplements false (a.recordComplements true left)
      | .exclusive, true =>
          let left := b.recordComplements false (a.recordComplements false names)
          b.recordComplements true (a.recordComplements true left)
      | _, polarity =>
          b.recordComplements polarity (a.recordComplements polarity names)

/-- The variables that the expansion of a formula uses complemented. -/
def invertedInputs (e : Formula) : NameSet := e.recordComplements false .empty

/-- Whether a formula is in the form that expansion produces. -/
def isExpanded : Formula → Bool
  | .leaf _ => true
  | .not (.leaf c) => (Signal.constant? c).isNone
  | .not _ => false
  | .binary .and a b => a.isExpanded && b.isExpanded
  | .binary .or a b => a.isExpanded && b.isExpanded
  | .binary _ _ _ => false

-- ── Size of the expansion ──────────────────────────────────────────

/-- Addition up to the greatest count. -/
def addCounts (m n : Nat) : Nat := min (m + n) largestCount

/-- Leaves of the expansion of a formula, and of the expansion of its
    complement, up to the greatest count. -/
def leafCounts : Formula → Nat × Nat
  | .leaf _ => (1, 1)
  | .not a => a.leafCounts.swap
  | .binary op a b =>
      let p := a.leafCounts
      let q := b.leafCounts
      let counts :=
        match op.family with
        | .exclusive =>
            let all := addCounts (addCounts (addCounts p.1 p.2) q.1) q.2
            (all, all)
        | _ => (addCounts p.1 q.1, addCounts p.2 q.2)
      if op.inverting then counts.swap else counts

/-- Leaves of the expansion of a formula, up to the greatest count. -/
def expandedSize (e : Formula) : Nat := e.leafCounts.1

end SwitchLogic.Formula
