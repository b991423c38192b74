import SwitchLogic.Error

/-! # Reading formulas

    The grammar has one chain of operands for each family of
    connectives, from the loosest to the tightest:

        disjunction := exclusion ((or | nor) exclusion)*
        exclusion   := conjunction ((xor | xnor) conjunction)*
        conjunction := complement ((and | nand) complement)*
        complement  := NOT complement | suffixed
        suffixed     := primary BANG*
        primary     := OPERAND | OPENING disjunction CLOSING

    Chains associate to the left.  A parenthesis and a leading
    complement each open a level; a complement that follows its operand
    opens none.

    Every production ends in front of a shorter list of tokens than it
    began with.  The recursion goes down in that length and, at equal
    length, from looser to tighter productions; seven times the length
    plus the height of the production measures both. -/

namespace SwitchLogic.Formula

/-- A place in a list of tokens: what is left to read, and how many
    levels are open. -/
structure Cursor where
  rest : List Token
  depth : Nat

/-- The productions of the grammar. -/
inductive Production where
  | chain (family : Family)
  | complement
  | suffixed
  | primary

/-- The production of the operands of a chain. -/
def operandOf : Family → Production
  | .disjunctive => .chain .exclusive
  | .exclusive => .chain .conjunctive
  | .conjunctive => .complement

/-- How many productions a production may pass to without reading. -/
def Production.height : Production → Nat
  | .chain .disjunctive => 6
  | .chain .exclusive => 5
  | .chain .conjunctive => 4
  | .complement => 3
  | .suffixed => 2
  | .primary => 1

/-- The operands of a chain are read by a tighter production. -/
theorem height_operandOf (f : Family) :
    (operandOf f).height < (Production.chain f).height := by
  cases f <;> decide

/-- At most six productions pass to one another without reading. -/
theorem height_le (p : Production) : p.height ≤ 6 := by
  cases p with
  | chain f => cases f <;> decide
  | _ => decide

/-- The connective of a chain that a token stands for. -/
def connective? (family : Family) (t : Token) : Option Connective :=
  match t.kind with
  | .connective op => if op.family = family then some op else none
  | _ => none

/-- What a production read: a formula, and the place behind it, with
    fewer than `bound` tokens left. -/
structure Reading (bound : Nat) where
  formula : Formula
  after : Cursor
  shorter : after.rest.length < bound

/-- A reading with a weaker bound. -/
def Reading.weaken {m n : Nat} (h : m ≤ n) (r : Reading m) : Reading n :=
  ⟨r.formula, r.after, Nat.lt_of_lt_of_le r.shorter h⟩

/-- Complements an operand once for every `!` that follows it. -/
def complementBangs (operand : Formula) : List Token → Formula × List Token
  | [] => (operand, [])
  | t :: rest =>
      if t.isBang then complementBangs (.not operand) rest else (operand, t :: rest)

/-- Reading the complements behind an operand adds no tokens. -/
theorem length_complementBangs (e : Formula) (ts : List Token) :
    (complementBangs e ts).2.length ≤ ts.length := by
  induction ts generalizing e with
  | nil => simp [complementBangs]
  | cons t rest ih =>
      simp only [complementBangs]
      split
      · exact Nat.le_succ_of_le (ih _)
      · exact Nat.le_refl _

mutual

/-- Reads one production at a cursor. -/
def read (limit : Nat) : Production → (c : Cursor) → Except Error (Reading c.rest.length)
  | .chain family, c =>
      match read limit (operandOf family) c with
      | .error e => .error e
      | .ok first =>
          match extend limit family first.formula first.after with
          | .error e => .error e
          | .ok whole => .ok (whole.weaken first.shorter)
  | .complement, ⟨[], depth⟩ => read limit .suffixed ⟨[], depth⟩
  | .complement, ⟨t :: rest, depth⟩ =>
      if t.kind = .complement then
        if limit ≤ depth then .error (.nestingTooDeep limit)
        else match read limit .complement ⟨rest, depth + 1⟩ with
          | .error e => .error e
          | .ok ⟨operand, ⟨rest', depth'⟩, h⟩ =>
              .ok ⟨.not operand, ⟨rest', depth' - 1⟩, Nat.lt_succ_of_lt h⟩
      else read limit .suffixed ⟨t :: rest, depth⟩
  | .suffixed, c =>
      match read limit .primary c with
      | .error e => .error e
      | .ok operand =>
          let complemented := complementBangs operand.formula operand.after.rest
          .ok ⟨complemented.1, { operand.after with rest := complemented.2 },
            Nat.lt_of_le_of_lt (length_complementBangs _ _) operand.shorter⟩
  | .primary, ⟨[], _⟩ => .error .unexpectedEnd
  | .primary, ⟨t :: rest, depth⟩ =>
      match t.kind with
      | .opening =>
          if limit ≤ depth then .error (.nestingTooDeep limit)
          else match read limit (.chain .disjunctive) ⟨rest, depth + 1⟩ with
            | .error e => .error e
            | .ok ⟨_, ⟨[], _⟩, _⟩ => .error .missingClosing
            | .ok ⟨body, ⟨u :: rest', depth'⟩, h⟩ =>
                if u.kind = .closing then
                  .ok ⟨body, ⟨rest', depth' - 1⟩, Nat.lt_succ_of_lt (Nat.lt_of_succ_lt h)⟩
                else .error .missingClosing
      | .operand =>
          match t.text with
          | [] => .error (.inconsistent (.unnamedOperand t.position))
          | name :: _ => .ok ⟨.leaf name, ⟨rest, depth⟩, Nat.lt_succ_self _⟩
      | _ => .error (.unexpectedToken t)
termination_by p c => 7 * c.rest.length + p.height
decreasing_by
  · exact Nat.add_lt_add_left (height_operandOf family) _
  · have := first.shorter; omega
  · exact Nat.add_lt_add_left (by decide) _
  · simp only [List.length_cons]; omega
  · exact Nat.add_lt_add_left (by decide) _
  · exact Nat.add_lt_add_left (by decide) _
  · simp only [List.length_cons, Production.height]; omega

/-- Reads the rest of a chain, to the right of a formula already read. -/
def extend (limit : Nat) (family : Family) (left : Formula) :
    (c : Cursor) → Except Error (Reading (c.rest.length + 1))
  | ⟨[], depth⟩ => .ok ⟨left, ⟨[], depth⟩, Nat.lt_succ_self _⟩
  | ⟨t :: rest, depth⟩ =>
      match connective? family t with
      | none => .ok ⟨left, ⟨t :: rest, depth⟩, Nat.lt_succ_self _⟩
      | some op =>
          match read limit (operandOf family) ⟨rest, depth⟩ with
          | .error e => .error e
          | .ok right =>
              match extend limit family (.binary op left right.formula) right.after with
              | .error e => .error e
              | .ok whole =>
                  .ok (whole.weaken
                    (Nat.succ_le_succ (Nat.le_succ_of_le (Nat.le_of_lt right.shorter))))
termination_by c => 7 * c.rest.length
decreasing_by
  · have := height_operandOf family
    have := height_le (.chain family)
    simp only [List.length_cons]; omega
  · have := right.shorter
    simp only [List.length_cons]
    simp only at this; omega

end

/-- The formula that a whole list of tokens writes, with at most
    `maxDepth` levels open at any point. -/
def ofTokens (maxDepth : Nat) (tokens : List Token) : Except Error Formula :=
  match read maxDepth (.chain .disjunctive) ⟨tokens, 0⟩ with
  | .error e => .error e
  | .ok r => if r.after.rest.isEmpty then .ok r.formula else .error .trailingTokens

end SwitchLogic.Formula
