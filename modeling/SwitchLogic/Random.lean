/-! # Random sources

    A random source is a state from which draws are made one after the
    other, and a way to start from a seed.  What is made of the draws
    relies on nothing but their ranges, which their types state.

    The source that the program uses is the generator xoshiro256++: four
    words of state, of which every step shifts and mixes all.  The state
    is filled from a seed of one word by a linear congruential generator
    with permuted output, half a word at a time.

    There a number below `n` is the high word of the product of a drawn
    word with `n`.  Words whose low product lies above a zone are
    rejected, so that all numbers are equally likely; the zone is as long
    as the greatest product of `n` and a power of two that fits in a
    word, so at least half of all words are accepted.  There is no need
    to look at more words than the generator has states: the states come
    round again then, so a word that is not found by that time is never
    found. -/

namespace SwitchLogic

/-- The draws that a state of type `σ` can answer.  Each returns the
    drawn value and the next state. -/
structure RandomSource (σ : Type) where
  /-- The state that a seed starts from. -/
  ofSeed : UInt64 → σ
  /-- True with the given chance, in units of `2 ^ -64`. -/
  chance : UInt64 → σ → Bool × σ
  /-- Either value, equally likely. -/
  coin : σ → Bool × σ
  /-- A number below `n`, all equally likely. -/
  below : (n : Nat) → 0 < n → σ → Fin n × σ

-- ── The xoshiro256++ generator ─────────────────────────────────────

/-- The state of the generator. -/
structure Xoshiro where
  s0 : UInt64
  s1 : UInt64
  s2 : UInt64
  s3 : UInt64
  deriving DecidableEq

namespace Xoshiro

/-- Rotates a word to the left, by less than its width and more than
    nothing. -/
def rotateLeft (x k : UInt64) : UInt64 := (x <<< k) ||| (x >>> (64 - k))

/-- Draws one word. -/
def next (g : Xoshiro) : UInt64 × Xoshiro :=
  let result := rotateLeft (g.s0 + g.s3) 23 + g.s0
  let s2 := g.s2 ^^^ g.s0
  let s3 := g.s3 ^^^ g.s1
  (result,
    { s0 := g.s0 ^^^ s3
      s1 := g.s1 ^^^ s2
      s2 := s2 ^^^ (g.s1 <<< 17)
      s3 := rotateLeft s3 45 })

-- ── Seeding ────────────────────────────────────────────────────────

/-- One step of the congruential generator. -/
def seedStep (state : UInt64) : UInt64 :=
  state * 6364136223846793005 + 11634580027462260723

/-- The half word that a state of the congruential generator gives out:
    a shifted mixture, rotated by its topmost bits. -/
def seedOutput (state : UInt64) : UInt32 :=
  let x := (((state >>> 18) ^^^ state) >>> 27).toUInt32
  let r := (state >>> 59).toUInt32
  (x >>> r) ||| (x <<< ((32 - r) % 32))

/-- The word made of the next two half words, the low half first, and
    the state behind them. -/
def seedWord (state : UInt64) : UInt64 × UInt64 :=
  let a := seedStep state
  let b := seedStep a
  ((seedOutput a).toUInt64 ||| ((seedOutput b).toUInt64 <<< 32), b)

/-- The generator started from a seed. -/
def ofSeed (seed : UInt64) : Xoshiro :=
  let (s0, seed) := seedWord seed
  let (s1, seed) := seedWord seed
  let (s2, seed) := seedWord seed
  let (s3, _) := seedWord seed
  ⟨s0, s1, s2, s3⟩

-- ── Draws ──────────────────────────────────────────────────────────

/-- The greatest low product that is accepted for numbers below `n`. -/
def zone (n : Nat) : Nat := (n <<< (63 - Nat.log2 n)) - 1

/-- Whether a word is accepted for a number below `n`. -/
def accepts (n : Nat) (word : UInt64) : Bool := word.toNat * n % UInt64.size ≤ zone n

/-- The high word of the product of a word with `n`. -/
def high (word : UInt64) (n : Nat) (pos : 0 < n) : Fin n :=
  ⟨word.toNat * n / UInt64.size,
    Nat.div_lt_of_lt_mul (Nat.mul_lt_mul_of_pos_right word.toNat_lt_size pos)⟩

/-- Draws a number below `n`, with at most `rejections` words rejected. -/
def belowWithin (n : Nat) (pos : 0 < n) : (rejections : Nat) → Xoshiro → Fin n × Xoshiro
  | 0, g => (high g.next.1 n pos, g.next.2)
  | rejections + 1, g =>
      if accepts n g.next.1 then (high g.next.1 n pos, g.next.2)
      else belowWithin n pos rejections g.next.2

/-- The number of states of the generator. -/
def stateCount : Nat := UInt64.size * (UInt64.size * (UInt64.size * UInt64.size))

/-- The draws of the generator.  A chance is met by the words below it,
    and a coin shows the topmost bit of a word. -/
def source : RandomSource Xoshiro where
  ofSeed := ofSeed
  chance threshold g := (decide (g.next.1 < threshold), g.next.2)
  coin g := (decide (g.next.1 ≥ 0x8000000000000000), g.next.2)
  below n pos g := belowWithin n pos stateCount g

end Xoshiro

end SwitchLogic
