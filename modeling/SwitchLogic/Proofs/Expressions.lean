import Mathlib.Data.List.Destutter
import Mathlib.Data.List.Sort
import SwitchLogic.Proofs.CompleteTables
import SwitchLogic.Proofs.NetworkSize
import SwitchLogic.Proofs.Reprinting

/-! # Expressions that were read

    An expression keeps four promises that its later use relies on.  Its
    leaves are letters and constants; its variables are the letters among
    them; its formula has one node for every token but the parentheses,
    and so is no larger than the text; and the limits that it carries are
    the only reason why a table or a circuit may be refused.

    The first two say that the table of an expression has a column for
    every leaf that needs one, so no variable is ever without a value. -/

namespace SwitchLogic

-- ── Tokens and nodes ───────────────────────────────────────────────

namespace Token

/-- Whether a token is a parenthesis. -/
def isParenthesis (t : Token) : Bool := t.kind = .opening || t.kind = .closing

/-- Side by side, tokens are at least as long as they are many. -/
theorem length_le_length_spelled {ts : List Token} (h : ∀ t ∈ ts, Writes t.kind t.text) :
    ts.length ≤ (spelled ts).length := by
  induction ts with
  | nil => exact Nat.le_refl 0
  | cons t ts ih =>
      have hhead := length_pos_of_writes (h t List.mem_cons_self)
      have htail := ih fun u hu => h u (List.mem_cons_of_mem t hu)
      rw [spelled_cons, List.length_append, List.length_cons]
      omega

/-- Every token but a parenthesis has a character of its own. -/
theorem countP_le_length_of_ofText {text : List Char} {ts : List Token}
    (h : ofText text = .ok ts) : ts.countP (!·.isParenthesis) ≤ text.length := by
  obtain ⟨hwrites, -⟩ := spelled_of_ofText h
  have hspelled := length_le_length_spelled hwrites
  have hblanks := length_spelled_of_ofText h
  have hcount := List.countP_le_length (p := (!·.isParenthesis)) (l := ts)
  omega

end Token

namespace Formula

/-- **One node for each token**, parentheses apart. -/
theorem size_of_derives {p : Production} {ts : List Token} {e : Formula} {n : Nat}
    (h : Derives p ts e n) : e.size = ts.countP (!·.isParenthesis) := by
  induction h with
  | operand hkind _ => simp [size, Token.isParenthesis, hkind]
  | @parentheses t ts u e n hopen _ hclose ih =>
      -- the two parentheses are not counted, and make no node
      have hcount : (t :: (ts ++ [u])).countP (!·.isParenthesis)
          = ts.countP (!·.isParenthesis) := by
        simp [Token.isParenthesis, hopen, hclose]
      rw [hcount, ih]
  | primary _ ih => exact ih
  | @bang ts t e n _ ht ih =>
      have hkind : t.kind = .complement := by
        rw [Token.isBang, Bool.and_eq_true, decide_eq_true_eq] at ht
        exact ht.1
      have hcount : (ts ++ [t]).countP (!·.isParenthesis)
          = ts.countP (!·.isParenthesis) + 1 := by
        simp [Token.isParenthesis, hkind]
      rw [hcount, size, ih, Nat.add_comm]
  | suffixed _ ih => exact ih
  | @complement t ts e n hkind _ ih =>
      have hcount : (t :: ts).countP (!·.isParenthesis)
          = ts.countP (!·.isParenthesis) + 1 := by
        simp [Token.isParenthesis, hkind]
      rw [hcount, size, ih, Nat.add_comm]
  | single _ ih => exact ih
  | @connective f us t vs op a b m n _ hkind _ _ iha ihb =>
      have hcount : (us ++ t :: vs).countP (!·.isParenthesis)
          = us.countP (!·.isParenthesis) + (vs.countP (!·.isParenthesis) + 1) := by
        simp [Token.isParenthesis, hkind]
      rw [hcount, size, iha, ihb]
      omega

-- ── Letters ────────────────────────────────────────────────────────

/-- The letters of a formula are in increasing order, each listed once. -/
theorem pairwise_letters (e : Formula) : e.letters.Pairwise (· < ·) := by
  have hall : Signal.letters.Pairwise (· < ·) := by decide
  exact hall.filter _

/-- **The letters are collected from the leaves**: those that are letters
    are sorted, and neighbours that are equal are listed once. -/
theorem letters_eq_destutter (e : Formula) :
    e.letters = ((e.leaves.filter Signal.isLetter).mergeSort (· ≤ ·)).destutter (· ≠ ·) := by
  let sorted := (e.leaves.filter Signal.isLetter).mergeSort (· ≤ ·)
  have hsorted : sorted.Pairwise (· ≤ ·) := by
    have hle : sorted.Pairwise fun c d => decide (c ≤ d) = true :=
      List.pairwise_mergeSort (by simpa using fun _ _ _ => Char.le_trans)
        (by simpa using Char.le_total) _
    simpa using hle
  -- a sorted list has equal members side by side
  have hdedup : sorted.destutter (· ≠ ·) = sorted.dedup := hsorted.destutter_eq_dedup
  have hincreasing : sorted.dedup.Pairwise (· < ·) := by
    have hle := hsorted.sublist (List.dedup_sublist sorted)
    exact (hle.and (List.nodup_dedup sorted)).imp fun h => Std.lt_of_le_of_ne h.1 h.2
  refine (pairwise_letters e).eq_of_mem_iff (hdedup ▸ hincreasing) fun c => ?_
  rw [hdedup, List.mem_dedup, List.mem_mergeSort, List.mem_filter, mem_letters,
    ← Signal.isLetter_iff_mem, and_comm]

/-- The letters of a written formula are columns for all of its leaves. -/
theorem mem_letters_of_isWritable {e : Formula}
    (h : ∀ c ∈ e.leaves, Signal.isWritable c = true) :
    ∀ x ∈ e.leaves, Signal.constant? x = none → x ∈ e.letters := by
  intro x hx hvar
  have hwritable := h x hx
  rw [Signal.isWritable, hvar, Option.isSome_none, Bool.or_false] at hwritable
  exact mem_letters.mpr ⟨Signal.isLetter_iff_mem.mp hwritable, hx⟩

end Formula

-- ── Expressions ────────────────────────────────────────────────────

namespace Expression

/-- What an expression promises about the text that it was read from. -/
structure IsReadingOf (x : Expression) (limits : Limits) (source : List Char) : Prop where
  canonical : x.canonical = Spelling.canonical source
  /-- The leaves are letters and constants. -/
  leaves : ∀ c ∈ x.formula.leaves, Signal.isWritable c = true
  /-- No variable is listed twice. -/
  increasing : x.letters.Pairwise (· < ·)
  /-- The variables are the letters among the leaves. -/
  letters : ∀ c, c ∈ x.letters ↔ Signal.isLetter c = true ∧ c ∈ x.formula.leaves
  /-- There is one node for every token that is no parenthesis. -/
  nodes : ∃ tokens, Token.ofText x.canonical = .ok tokens ∧
    x.formula.size = tokens.countP (!·.isParenthesis)
  size : x.formula.size ≤ x.canonical.length
  length : x.canonical.length ≤ limits.maxLength
  /-- Only the number of variables can stand in the way of a table. -/
  table : (∃ err, x.truthTable = .error err) ↔ limits.maxVariables < x.letters.length
  tooMany : ∀ err, x.truthTable = .error err →
    err = .tooManyVariables x.letters.length limits.maxVariables
  /-- Only the number of devices can stand in the way of a circuit. -/
  tooLarge : ∀ err, x.synthesize = .error err →
    ∃ devices, err = .networkTooLarge devices limits.maxDevices

variable {limits : Limits} {source : List Char} {x : Expression}

/-- The table of an expression has a column for each leaf that needs one. -/
theorem truthTable_cases (hletters : x.letters = x.formula.letters)
    (hleaves : ∀ c ∈ x.formula.leaves, Signal.isWritable c = true) :
    (x.limits.maxVariables < x.letters.length ∧
        x.truthTable = .error (.tooManyVariables x.letters.length x.limits.maxVariables)) ∨
      (x.letters.length ≤ x.limits.maxVariables ∧ ∃ t, x.truthTable = .ok t) := by
  rw [truthTable, hletters]
  exact TruthTable.build_cases (Formula.mem_letters_of_isWritable hleaves) _

/-- **What was read keeps its promises.** -/
theorem isReadingOf_of_read (hx : read limits source = .ok x) : x.IsReadingOf limits source := by
  obtain ⟨hlength, hfields, tokens, htokens, hformula⟩ := exists_tokens_of_read hx
  obtain ⟨hwrites, -⟩ := Token.spelled_of_ofText htokens
  obtain ⟨n, -, hder⟩ := Formula.derives_of_ofTokens hformula
  have hcanonical : x.canonical = Spelling.canonical source := by rw [hfields]
  have hletters : x.letters = x.formula.letters := by rw [hfields]
  have hlimits : x.limits = limits := by rw [hfields]
  have hleaves := Formula.isWritable_of_derives hder hwrites
  have hnodes := Formula.size_of_derives hder
  have htable := truthTable_cases hletters hleaves
  rw [hlimits] at htable
  constructor
  case canonical => exact hcanonical
  case leaves => exact hleaves
  case increasing => exact hletters ▸ x.formula.pairwise_letters
  case letters =>
    intro c
    rw [hletters, Formula.mem_letters, Signal.isLetter_iff_mem]
  case nodes => exact ⟨tokens, hcanonical ▸ htokens, hnodes⟩
  case size =>
    rw [hcanonical, hnodes]
    exact Token.countP_le_length_of_ofText htokens
  case length => exact hcanonical ▸ hlength
  case table =>
    rcases htable with ⟨hmany, herror⟩ | ⟨hfits, t, ht⟩
    · exact ⟨fun _ => hmany, fun _ => ⟨_, herror⟩⟩
    · refine ⟨?_, fun h => absurd hfits (Nat.not_le_of_lt h)⟩
      rintro ⟨err, h⟩
      rw [ht] at h
      cases h
  case tooMany =>
    intro err h
    rcases htable with ⟨-, herror⟩ | ⟨-, t, ht⟩
    · exact Except.error.inj (h.symm.trans herror)
    · rw [ht] at h
      cases h
  case tooLarge =>
    intro err h
    rw [synthesize, hlimits] at h
    rcases Circuit.synthesize_cases x.formula limits.maxDevices with ⟨-, herror⟩ | ⟨-, c, hc⟩
    · exact ⟨_, Except.error.inj (h.symm.trans herror)⟩
    · rw [hc] at h
      cases h

/-- The text `(B ^ a') + 0` has six tokens besides its parentheses and
    two variables, one more than the limits allow a table. -/
theorem isReadingOf_of_read_or :
    let limits : Limits := { Limits.standard with maxVariables := 1 }
    let e := Formula.or (.xor (.leaf 'b') (.not (.leaf 'a'))) (.leaf '0')
    ∃ x, read limits "(B ^ a\x27) + 0".toList = .ok x ∧ x.formula = e ∧
      (∃ tokens, Token.ofText x.canonical = .ok tokens ∧
        tokens.countP (!·.isParenthesis) = 6) ∧
      'b' ∈ x.letters ∧ '0' ∉ x.letters ∧
      x.truthTable = .error (.tooManyVariables 2 1) := by
  intro limits e
  obtain ⟨x, hx, hformula⟩ : ∃ x, read limits "(B ^ a\x27) + 0".toList = .ok x ∧
      x.formula = e := exists_read (by decide +kernel)
  have hreading := isReadingOf_of_read hx
  obtain ⟨-, hfields, -⟩ := exists_tokens_of_read hx
  have hletters : x.letters = ['a', 'b'] := by
    rw [hfields, hformula]
    decide
  obtain ⟨tokens, htokens, hnodes⟩ := hreading.nodes
  rw [hformula] at hnodes
  obtain ⟨err, herr⟩ := hreading.table.mpr (by rw [hletters]; decide)
  have hmany := hreading.tooMany err herr
  rw [hletters] at hmany
  refine ⟨x, hx, hformula, ⟨tokens, htokens, hnodes.symm⟩, ?_, ?_, hmany ▸ herr⟩
  · exact (hreading.letters 'b').mpr ⟨by decide, by rw [hformula]; decide⟩
  · intro hzero
    exact absurd ((hreading.letters '0').mp hzero).1 (by decide)

end Expression

end SwitchLogic
