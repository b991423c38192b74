import SwitchLogic.Proofs.Equivalence
import SwitchLogic.Proofs.Expressions
import SwitchLogic.Proofs.Scanner
import SwitchLogic.Proofs.Tiling

/-! # From a text to a checked circuit

    A text is read, its formula gets a circuit, and the circuit is
    checked against the formula's own table.  On this way only three
    things are ever reported, in this order: what is wrong with the text,
    that the circuit would have too many devices, and that the table
    would have too many columns.

    Every other failure is ruled out by what came before it.  A text
    gives every operand a name, so the reader meets no operand without
    one.  The table has a column for every variable of the formula, so
    none is without a value.  And the circuit computes the formula, so it
    agrees with the table in every row. -/

namespace SwitchLogic

variable {err : Error} {limit : Nat}

-- ── What is wrong with a text ──────────────────────────────────────

/-- Whether a failure is about a text: its characters, its tokens, its
    length or its nesting. -/
def Error.concernsText : Error → Bool
  | .tooManyVariables _ _ => false
  | .networkTooLarge _ _ => false
  | .unassignedVariable _ => false
  | .inconsistent _ => false
  | _ => true

/-- Cutting a text into tokens fails at a character only. -/
theorem Token.eq_unknownCharacter_of_listFrom {position : Nat} {s : List Char}
    (h : listFrom position s = .error err) : ∃ c p, err = .unknownCharacter c p := by
  rw [listFrom_eq_error_iff, illegal?, Option.map_eq_some_iff] at h
  obtain ⟨c, -, rfl⟩ := h
  exact ⟨c, _, rfl⟩

namespace Scan

/-- A level that may not be opened is about the text. -/
theorem concernsText_of_push {frame : Frame} {frames : List Frame}
    (h : push limit frame frames = .error err) : err.concernsText = true := by
  rw [push] at h
  split at h
  · cases h
    rfl
  · cases h

/-- So is a token that a complete operand cannot be gone on with. -/
theorem concernsText_refusal (frames : List Frame) : (refusal frames).concernsText = true := by
  cases frames <;> rfl

/-- One token with a name is refused for a reason that is about the text. -/
theorem concernsText_of_step {state : Scan} {t : Token}
    (hnamed : t.kind = .operand → t.text ≠ []) (h : state.step limit t = .error err) :
    err.concernsText = true := by
  cases state with
  | expecting frames =>
      simp only [step] at h
      split at h
      · exact concernsText_of_push h
      · exact concernsText_of_push h
      · rename_i hkind
        rw [if_neg (hnamed hkind)] at h
        cases h
      · cases h
        rfl
  | complete frames =>
      simp only [step] at h
      split at h
      · cases h
      · split at h
        · cases h
        · cases h
        · cases h
          exact concernsText_refusal _

/-- So is an end of the tokens that comes too early. -/
theorem concernsText_of_finish {state : Scan} (h : state.finish = .error err) :
    err.concernsText = true := by
  cases state with
  | expecting frames =>
      cases h
      rfl
  | complete frames =>
      rw [finish] at h
      split at h
      · cases h
      · cases h
        rfl

/-- **A scan fails for the text alone**, if its operands have names. -/
theorem concernsText_of_run {state : Scan} {ts : List Token}
    (hnamed : ∀ t ∈ ts, t.kind = .operand → t.text ≠ []) (h : run limit state ts = .error err) :
    err.concernsText = true := by
  induction ts generalizing state with
  | nil => exact concernsText_of_finish h
  | cons t ts ih =>
      rw [run] at h
      cases hstep : state.step limit t with
      | error e =>
          rw [hstep] at h
          cases h
          exact concernsText_of_step (hnamed t List.mem_cons_self) hstep
      | ok next =>
          rw [hstep] at h
          exact ih (fun u hu => hnamed u (List.mem_cons_of_mem t hu)) h

end Scan

/-- Where all operands have names, reading fails for the reasons of the
    scanner or for what is left over. -/
theorem Formula.concernsText_of_ofTokens {ts : List Token}
    (hnamed : ∀ t ∈ ts, t.kind = .operand → t.text ≠ [])
    (h : ofTokens limit ts = .error err) : err.concernsText = true := by
  rw [ofTokens_eq] at h
  cases hread : readAt limit (.chain .disjunctive) ⟨ts, 0⟩ with
  | error e =>
      rw [hread] at h
      cases h
      have hrun := (Scan.run_eq_readAt limit).1 (.chain .disjunctive) ⟨ts, 0⟩
        (Nat.zero_le limit) [] rfl rfl
      rw [hread] at hrun
      exact Scan.concernsText_of_run hnamed hrun
  | ok x =>
      rw [hread] at h
      simp only [Except.bind] at h
      split at h
      · cases h
      · cases h
        rfl

/-- **Reading reports what is wrong with the text**, and nothing else. -/
theorem Expression.concernsText_of_read {limits : Limits} {source : List Char}
    (h : read limits source = .error err) : err.concernsText = true := by
  simp only [read] at h
  split at h
  · cases h
    rfl
  · cases htokens : Token.ofText (Spelling.canonical source) with
    | error e =>
        rw [htokens] at h
        cases h
        obtain ⟨c, p, rfl⟩ := Token.eq_unknownCharacter_of_listFrom htokens
        rfl
    | ok tokens =>
        simp only [htokens] at h
        -- an operand without a text would be a fault, but tokens that were cut have one
        have hnamed : ∀ t ∈ tokens, t.kind = .operand → t.text ≠ [] := by
          intro t ht _ hempty
          have hwrites := (Token.spelled_of_ofText htokens).1 t ht
          exact absurd (Token.length_pos_of_writes hwrites) (by rw [hempty]; decide)
        cases hformula : Formula.ofTokens limits.maxDepth tokens with
        | error e =>
            rw [hformula] at h
            cases h
            exact Formula.concernsText_of_ofTokens hnamed hformula
        | ok formula =>
            rw [hformula] at h
            cases h

-- ── Devices and columns ────────────────────────────────────────────

namespace Formula

/-- The devices that a formula asks for in each network, one for every
    leaf of its expanded seed, counted up to the greatest number of 64
    bits. -/
def demand (e : Formula) : Nat := min e.seed.1.expand.leaves.length (2 ^ 64 - 1)

/-- The demand is the full size of the formula, counted up to the greatest
    count. -/
theorem demand_eq (e : Formula) : e.demand = min e.fullSize largestCount := by
  rw [demand, expand, length_leaves_expandUnder, fullSize_seed, largestCount_eq]

end Formula

namespace Circuit

/-- **A formula's circuit passes against its own table.** -/
theorem verify_own {e : Formula} {maxDevices maxVariables : Nat} {c : Circuit} {t : TruthTable}
    (hleaves : ∀ x ∈ e.leaves, Signal.isWritable x = true)
    (hc : synthesize e maxDevices = .ok c)
    (ht : TruthTable.build e e.letters maxVariables = .ok t) : c.verify t = .ok () := by
  rcases verify_synthesize_cases hc (Formula.mem_letters_of_isWritable hleaves) ht with
    ⟨hok, -⟩ | ⟨i, -, -, hdiffers, -⟩
  · exact hok
  · exact absurd rfl hdiffers

/-- **Where the way to a checked circuit ends.**  A written formula asks
    for too many devices, or it gets a circuit; then it has too many
    letters for a table, or it gets a table too and its circuit passes
    against it. -/
theorem checked_cases {e : Formula} (hleaves : ∀ x ∈ e.leaves, Signal.isWritable x = true)
    (limits : Limits) :
    (limits.maxDevices < e.demand ∧
        synthesize e limits.maxDevices
          = .error (.networkTooLarge e.demand limits.maxDevices)) ∨
      e.demand ≤ limits.maxDevices ∧ ∃ c, synthesize e limits.maxDevices = .ok c ∧
        ((limits.maxVariables < e.letters.length ∧
            TruthTable.build e e.letters limits.maxVariables
              = .error (.tooManyVariables e.letters.length limits.maxVariables)) ∨
          e.letters.length ≤ limits.maxVariables ∧
            ∃ t, TruthTable.build e e.letters limits.maxVariables = .ok t ∧
              t.rowCount = 2 ^ e.letters.length ∧ c.verify t = .ok ()) := by
  rw [Formula.demand_eq]
  rcases synthesize_cases e limits.maxDevices with hlarge | ⟨hfits, c, hc⟩
  · exact .inl hlarge
  · refine .inr ⟨hfits, c, hc, ?_⟩
    rcases TruthTable.build_cases (Formula.mem_letters_of_isWritable hleaves)
      limits.maxVariables with hmany | ⟨hfew, t, ht⟩
    · exact .inl hmany
    · obtain ⟨-, hcount, -⟩ := TruthTable.build_eq_ok ht
      exact .inr ⟨hfew, t, ht, hcount, verify_own hleaves hc ht⟩

end Circuit

end SwitchLogic
