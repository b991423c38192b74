import SwitchLogic.Formula.Basic
import SwitchLogic.Random

/-! # Generated formulas

    A random formula is drawn from the root down.  Above the last level
    a node is a leaf with a chance of one fifth, and otherwise a
    complement or one of the six connectives, all seven equally likely;
    the left operand is drawn before the right one.  A leaf is a
    constant with a chance of one twentieth, and otherwise one of the
    first letters.

    Some functions with a well-known structure, over the first letters,
    have formulas of their own. -/

namespace SwitchLogic.Formula

-- ── Random formulas ────────────────────────────────────────────────

/-- The size of a sample: how many letters it may use, and how many
    levels it may have. -/
structure SampleSize where
  letters : Nat
  depth : Nat
  letters_pos : 0 < letters
  letters_le : letters ≤ 26
  depth_pos : 0 < depth

/-- The size with the given numbers, if there are samples of that size. -/
def SampleSize.ofNumbers? (letters depth : Nat) : Option SampleSize :=
  if h : (0 < letters ∧ letters ≤ 26) ∧ 0 < depth then
    some ⟨letters, depth, h.1.1, h.1.2, h.2⟩
  else none

/-- The chance of a leaf above the last level. -/
def leafChance : UInt64 := 3689348814741910528

/-- The chance that a leaf is a constant. -/
def constantChance : UInt64 := 922337203685477632

/-- The connectives in the order in which they are drawn. -/
def drawnConnectives : Vector Connective 6 := #v[.and, .or, .nand, .nor, .xor, .xnor]

/-- The letter with a given index. -/
def letterAt (i : Nat) : Char := Char.ofNat ('a'.toNat + i)

section

variable {σ : Type} (source : RandomSource σ) (letters : Nat) (letters_pos : 0 < letters)

/-- Draws a leaf. -/
def drawLeaf (state : σ) : Formula × σ :=
  let (isConstant, state) := source.chance constantChance state
  if isConstant then
    let (value, state) := source.coin state
    (.constant value, state)
  else
    let (i, state) := source.below letters letters_pos state
    (.leaf (letterAt i), state)

/-- Draws a formula of at most the given depth. -/
def draw : Nat → σ → Formula × σ
  | 0, state => drawLeaf source letters letters_pos state
  | 1, state => drawLeaf source letters letters_pos state
  | depth + 2, state =>
      let (isLeaf, state) := source.chance leafChance state
      if isLeaf then drawLeaf source letters letters_pos state
      else
        let (choice, state) := source.below 7 (by decide) state
        if h : choice.val < 6 then
          let (left, state) := draw (depth + 1) state
          let (right, state) := draw (depth + 1) state
          (.binary drawnConnectives[choice.val] left right, state)
        else
          let (operand, state) := draw (depth + 1) state
          (.not operand, state)

end

/-- The formula of a given size that a seed determines. -/
def sample {σ : Type} (source : RandomSource σ) (size : SampleSize) (seed : UInt64) : Formula :=
  (draw source size.letters size.letters_pos size.depth (source.ofSeed seed)).1

-- ── Classic functions ──────────────────────────────────────────────

/-- The exclusive chain over the first `n` letters, associated to the
    left; there is one for every number of letters from 1 to 26. -/
def parity? (n : Nat) : Option Formula :=
  match (Signal.letters.take n).map Formula.leaf with
  | first :: rest => if n ≤ Signal.letters.length then some (rest.foldl .xor first) else none
  | [] => none

/-- The majority of three inputs. -/
def majority : Formula :=
  .or (.or (.and (.leaf 'a') (.leaf 'b')) (.and (.leaf 'b') (.leaf 'c')))
    (.and (.leaf 'a') (.leaf 'c'))

/-- The and-or-invert gate. -/
def andOrInvert : Formula :=
  .not (.or (.and (.leaf 'a') (.leaf 'b')) (.leaf 'c'))

end SwitchLogic.Formula
