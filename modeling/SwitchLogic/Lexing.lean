import SwitchLogic.Error
import SwitchLogic.Text.Characters

/-! # From text to tokens

    Expressions are typed with many signs for the same operation.  The
    canonical form of a text has `!` for every sign of complement and
    the spaced keyword for every sign of a binary connective, is in
    lowercase, and has no white space at its ends.  What a character
    means beyond that is not judged here: other signs are kept.

    A text is cut into tokens from left to right.  White space is
    dropped, and every other character starts a token: a parenthesis, a
    `!`, a constant, or a letter.  A letter starts a keyword when one is
    written there, even without a space behind it, and is a variable
    otherwise.  No keyword is the start of another, so at most one is
    written at any place.  Each step drops the characters of one token,
    so the recursion ends with the text. -/

-- ── Spellings ──────────────────────────────────────────────────────

namespace SwitchLogic.Spelling

/-- The signs of complement: the apostrophe, the macron, the combining
    overline and the overline. -/
def complementSigns : List Char := ['\x27', '\u00AF', '\u0305', '\u203E']

/-- The connective a sign stands for. -/
def connective? : Char → Option Connective
  | '⊽' | '↓' => some .nor
  | '⊼' | '↑' => some .nand
  | '⊕' | '^' => some .xor
  | '⊙' | '≡' => some .xnor
  | '|' | '+' => some .or
  | '&' | '*' | '\u00B7' | '\u22C5' => some .and
  | _ => none

/-- What is written for a character: a sign of an operation gives way to
    its canonical spelling. -/
def spell (c : Char) : List Char :=
  if c ∈ complementSigns then ['!']
  else match connective? c with
    | some op => ' ' :: (op.keyword ++ [' '])
    | none => [c]

/-- The canonical form of a text. -/
def canonical (s : List Char) : List Char :=
  Text.trim (Text.lowercase (s.flatMap spell))

end SwitchLogic.Spelling

-- ── Cutting into tokens ────────────────────────────────────────────

namespace SwitchLogic.Token

/-- The keywords and their kinds. -/
def keywords : List (List Char × TokenKind) :=
  [(Connective.nand.keyword, .connective .nand),
   (Connective.nor.keyword, .connective .nor),
   (['n', 'o', 't'], .complement),
   (Connective.xnor.keyword, .connective .xnor),
   (Connective.xor.keyword, .connective .xor),
   (Connective.and.keyword, .connective .and),
   (Connective.or.keyword, .connective .or)]

/-- The keyword written at the start of a text. -/
def keyword? (s : List Char) : Option (List Char × TokenKind) :=
  keywords.find? fun k => k.1.isPrefixOf s

/-- Text and kind of the token that a character starts, given the
    characters behind it; none where no token may start. -/
def lexeme? (c : Char) (rest : List Char) : Option (List Char × TokenKind) :=
  if c = '(' then some ([c], .opening)
  else if c = ')' then some ([c], .closing)
  else if c = '!' then some ([c], .complement)
  else if Signal.isLetter c then
    match keyword? (c :: rest) with
    | some k => some k
    | none => some ([c], .operand)
  else if (Signal.constant? c).isSome then some ([c], .operand)
  else none

/-- The tokens of a text whose first character has the given position. -/
def listFrom (position : Nat) : List Char → Except Error (List Token)
  | [] => .ok []
  | c :: rest =>
      if Text.isBlank c then listFrom (position + 1) rest
      else match lexeme? c rest with
        | none => .error (.unknownCharacter c position)
        | some (text, kind) =>
            match listFrom (position + text.length) (rest.drop (text.length - 1)) with
            | .error e => .error e
            | .ok tokens => .ok (⟨kind, text, position⟩ :: tokens)
termination_by s => s.length
decreasing_by all_goals simp only [List.length_cons, List.length_drop]; omega

/-- The tokens of a text, or the first character that starts none. -/
def ofText (s : List Char) : Except Error (List Token) := listFrom 0 s

end SwitchLogic.Token
