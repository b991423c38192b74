import SwitchLogic.Proofs.NetworkSize

/-! # Which formulas have a network

    A formula has a network exactly when each of its nodes has a
    counterpart there: a leaf or a complemented leaf is a device, a plain
    conjunction or disjunction is a connection, and nothing else will do.
    This is a little more than the expanded form, since a complemented
    constant has a device like any complemented leaf.  Where some node has
    no counterpart, the first such node is reported, a node before its
    operands and the left operand before the right one.

    A network that was made of a formula shows the formula again, node by
    node, so no two formulas share one. -/

namespace SwitchLogic

namespace Formula

-- ── Nodes without a counterpart ────────────────────────────────────

/-- The nodes of a formula, each before those of its operands, and those
    of the left operand before those of the right one. -/
def nodes : Formula → List Formula
  | .leaf c => [.leaf c]
  | .not a => .not a :: a.nodes
  | .binary op a b => .binary op a b :: (a.nodes ++ b.nodes)

/-- What keeps a node out of a network: that it complements more than a
    leaf, or that it is another connective than the plain conjunction and
    disjunction. -/
def nodeFault? : Formula → Option Fault
  | .leaf _ => none
  | .not (.leaf _) => none
  | .not a => some (.complementOf a)
  | .binary .and _ _ => none
  | .binary .or _ _ => none
  | .binary op _ _ => some (.unexpandedNode op)

/-- The fault of the first node that a network has no counterpart for. -/
def firstFault? (e : Formula) : Option Fault := e.nodes.findSome? nodeFault?

/-- A node has no fault if it is a leaf, a complemented leaf, or a plain
    conjunction or disjunction. -/
theorem nodeFault?_eq_none_iff {f : Formula} : f.nodeFault? = none ↔
    (∀ op a b, f = .binary op a b → op = .and ∨ op = .or) ∧
      ∀ a, f = .not a → ∃ c, a = .leaf c := by
  fun_cases nodeFault? f with
  | case1 c => simp
  | case2 c => simp
  | case3 a ha => simpa using ha
  | case4 a b => simp
  | case5 a b => simp
  | case6 op a b hand hor => simpa using ⟨hand, hor⟩

/-- No fault is found where every node has a counterpart. -/
theorem firstFault?_eq_none_iff {e : Formula} : e.firstFault? = none ↔
    ∀ f ∈ e.nodes, (∀ op a b, f = .binary op a b → op = .and ∨ op = .or) ∧
      ∀ a, f = .not a → ∃ c, a = .leaf c := by
  simp only [firstFault?, List.findSome?_eq_none_iff, nodeFault?_eq_none_iff]

/-- A fault at the root comes before those of the operands. -/
theorem firstFault?_of_nodeFault? {f : Formula} {fault : Fault}
    (h : f.nodeFault? = some fault) : f.firstFault? = some fault := by
  cases f <;> rw [firstFault?, nodes, List.findSome?_cons, h]

/-- Of the operands of a connective the left one counts first. -/
theorem firstFault?_binary {op : Connective} {a b : Formula}
    (h : (binary op a b).nodeFault? = none) :
    (binary op a b).firstFault? = a.firstFault?.or b.firstFault? := by
  rw [firstFault?, nodes, List.findSome?_cons, h, List.findSome?_append]
  rfl

end Formula

namespace Network

open Formula

-- ── The outcome for every formula ──────────────────────────────────

/-- An outcome is a network where there is no fault, and otherwise the
    report of the fault. -/
def Reports (outcome : Except Error Network) : Option Fault → Prop
  | none => ∃ n, outcome = .ok n
  | some fault => outcome = .error (.inconsistent fault)

/-- Of two faults the connection reports the left one. -/
theorem reports_connect {connection : List Network → Network} {x y : Except Error Network}
    {p q : Option Fault} (hx : Reports x p) (hy : Reports y q) :
    Reports (connect connection x y) (p.or q) := by
  cases p with
  | some fault =>
      obtain rfl : x = .error (.inconsistent fault) := hx
      rfl
  | none =>
      obtain ⟨m, rfl⟩ := hx
      cases q with
      | some fault =>
          obtain rfl : y = .error (.inconsistent fault) := hy
          rfl
      | none =>
          obtain ⟨n, rfl⟩ := hy
          exact ⟨connection [m, n], rfl⟩

/-- **A network or the first fault**, for every formula. -/
theorem reports_ofFormula (e : Formula) : Reports (ofFormula e) e.firstFault? := by
  fun_induction ofFormula e with
  | case1 c => exact ⟨_, rfl⟩
  | case2 c => exact ⟨_, rfl⟩
  | case3 a ha =>
      have hfault : (Formula.not a).nodeFault? = some (.complementOf a) := by
        rw [nodeFault?]
        exact ha
      rw [firstFault?_of_nodeFault? hfault]
      rfl
  | case4 a b iha ihb =>
      rw [firstFault?_binary rfl]
      exact reports_connect iha ihb
  | case5 a b iha ihb =>
      rw [firstFault?_binary rfl]
      exact reports_connect iha ihb
  | case6 op a b hand hor =>
      have hfault : (binary op a b).nodeFault? = some (.unexpandedNode op) := by
        rw [nodeFault?]
        · exact hand
        · exact hor
      rw [firstFault?_of_nodeFault? hfault]
      rfl

-- ── The formula of a network ───────────────────────────────────────

/-- The connective between two formulas that were made out. -/
def between (op : Connective) : List (Option Formula) → Option Formula
  | [some a, some b] => some (.binary op a b)
  | _ => none

/-- The formula that a network shows: literals for its devices, and plain
    connectives for connections of two parts. -/
def formula? : Network → Option Formula :=
  fold (fun d => some (if d.inverted then .not (.leaf d.gate) else .leaf d.gate))
    (between .and) (between .or)

theorem formula?_series (m n : Network) :
    (series [m, n]).formula? = between .and [m.formula?, n.formula?] := by
  simp [formula?]

theorem formula?_parallel (m n : Network) :
    (parallel [m, n]).formula? = between .or [m.formula?, n.formula?] := by
  simp [formula?]

/-- **A network shows the formula that it was made of.** -/
theorem formula?_of_ofFormula {e : Formula} {n : Network} (h : ofFormula e = .ok n) :
    n.formula? = some e := by
  refine ofFormula_induction (P := fun e n => n.formula? = some e) (fun c => rfl) (fun c => rfl)
    (fun a b m₁ m₂ ha hb => ?_) (fun a b m₁ m₂ ha hb => ?_) h
  · rw [formula?_series, ha, hb]
    rfl
  · rw [formula?_parallel, ha, hb]
    rfl

/-- Different formulas have different networks. -/
theorem eq_of_ofFormula_eq {e e' : Formula} {n : Network} (h : ofFormula e = .ok n)
    (h' : ofFormula e' = .ok n) : e' = e :=
  Option.some.inj ((formula?_of_ofFormula h').symm.trans (formula?_of_ofFormula h))

-- ── The expanded form ──────────────────────────────────────────────

/-- A formula with a network is in expanded form, unless it complements
    a constant. -/
theorem isExpanded_of_ofFormula {e : Formula} {n : Network} (h : ofFormula e = .ok n)
    (hconstants : ∀ x, (x, true) ∈ e.literals → Signal.constant? x = none) :
    e.isExpanded = true := by
  revert hconstants
  refine ofFormula_induction
    (P := fun e _ => (∀ x, (x, true) ∈ e.literals → Signal.constant? x = none) →
      e.isExpanded = true)
    (fun c _ => rfl) (fun c hc => ?_) (fun a b m₁ m₂ ha hb hc => ?_)
    (fun a b m₁ m₂ ha hb hc => ?_) h
  · rw [isExpanded, hc c (List.mem_singleton_self _)]
    rfl
  · simp only [literals_binary, List.mem_append] at hc
    rw [isExpanded, ha fun x hx => hc x (.inl hx), hb fun x hx => hc x (.inr hx)]
    rfl
  · simp only [literals_binary, List.mem_append] at hc
    rw [isExpanded, ha fun x hx => hc x (.inl hx), hb fun x hx => hc x (.inr hx)]
    rfl

/-- **The expanded form is what has a network, less complemented
    constants.** -/
theorem isExpanded_iff_ofFormula {e : Formula} : e.isExpanded = true ↔
    (∃ n, ofFormula e = .ok n) ∧ ∀ x, (x, true) ∈ e.literals → Signal.constant? x = none :=
  ⟨fun h => ⟨exists_ofFormula h, fun _ => constant?_of_mem_literals h⟩,
    fun ⟨⟨_, hn⟩, hconstants⟩ => isExpanded_of_ofFormula hn hconstants⟩

-- ── Networks of formulas ───────────────────────────────────────────

/-- Whether there is a network, and what is reported otherwise, follows
    from the first fault. -/
theorem exists_ofFormula_iff {e : Formula} :
    (∃ n, ofFormula e = .ok n) ↔ e.firstFault? = none := by
  have houtcome := reports_ofFormula e
  cases hfault : e.firstFault? with
  | none =>
      rw [hfault] at houtcome
      exact iff_of_true houtcome rfl
  | some fault =>
      rw [hfault] at houtcome
      refine iff_of_false ?_ (Option.some_ne_none fault)
      rintro ⟨n, hn⟩
      cases hn.symm.trans houtcome

/-- **The first fault is the one reported.** -/
theorem ofFormula_eq_error_iff {e : Formula} {err : Error} : ofFormula e = .error err ↔
    ∃ fault, e.firstFault? = some fault ∧ err = .inconsistent fault := by
  have houtcome := reports_ofFormula e
  constructor
  · intro h
    cases hfault : e.firstFault? with
    | none =>
        obtain ⟨n, hn⟩ := exists_ofFormula_iff.mpr hfault
        cases hn.symm.trans h
    | some fault =>
        rw [hfault] at houtcome
        exact ⟨fault, rfl, Except.error.inj (h.symm.trans houtcome)⟩
  · rintro ⟨fault, hfault, rfl⟩
    rwa [hfault] at houtcome

/-- **The network of a formula repeats it.**  There is one exactly when
    every connective is a plain conjunction or disjunction and every
    complement stands directly over a leaf, and otherwise the first node
    that is neither is reported; the expanded form asks besides that no
    constant is complemented.  The network belongs to no other formula,
    has an nmos for each leaf in order, inverted where the leaf is
    complemented, and conducts as the formula says wherever that has a
    value. -/
theorem ofFormula_mirrors (e : Formula) :
    ((∃ n, ofFormula e = .ok n) ↔
        ∀ f ∈ e.nodes, (∀ op a b, f = .binary op a b → op = .and ∨ op = .or) ∧
          ∀ a, f = .not a → ∃ c, a = .leaf c) ∧
      (∀ err, ofFormula e = .error err ↔
        ∃ fault, e.firstFault? = some fault ∧ err = .inconsistent fault) ∧
      (e.isExpanded = true ↔
        (∃ n, ofFormula e = .ok n) ∧ ∀ x, (x, true) ∈ e.literals → Signal.constant? x = none) ∧
      ∀ n, ofFormula e = .ok n →
        (∀ e', ofFormula e' = .ok n → e' = e) ∧
        n.devices = e.literals.map (fun l => ⟨.nmos, l.1, l.2⟩) ∧
        n.devices.map (·.gate) = e.leaves ∧
        ∀ s v, e.evaluate s = .ok v → n.conducts s = .ok v := by
  refine ⟨exists_ofFormula_iff.trans firstFault?_eq_none_iff, fun err => ofFormula_eq_error_iff,
    isExpanded_iff_ofFormula, fun n hn => ⟨fun e' => eq_of_ofFormula_eq hn, devices_ofFormula hn,
      ?_, fun s v => conducts_ofFormula hn⟩⟩
  rw [devices_ofFormula hn, List.map_map]
  exact e.map_fst_literals

/-- The network of `!0 and b or !a`, which is not in expanded form. -/
theorem ofFormula_mirrors_constant :
    let e := Formula.or (.and (.not (.leaf '0')) (.leaf 'b')) (.not (.leaf 'a'))
    let s : Assignment := ⟨[('a', true), ('b', true)]⟩
    ∃ n, ofFormula e = .ok n ∧ e.isExpanded = false ∧ e.evaluate s = .ok true ∧
      n.conducts s = .ok true ∧ n.devices.map (·.inverted) = [true, false, true] ∧
      ∀ e', ofFormula e' = .ok n → e' = e := by
  intro e s
  obtain ⟨n, hn⟩ : ∃ n, ofFormula e = .ok n := ⟨_, rfl⟩
  obtain ⟨-, -, -, hnetwork⟩ := ofFormula_mirrors e
  obtain ⟨hunique, hdevices, -, hconducts⟩ := hnetwork n hn
  refine ⟨n, hn, rfl, rfl, hconducts s true rfl, ?_, hunique⟩
  rw [hdevices]
  rfl

-- the second complement comes before what it complements, and before the exclusive connective
example : ofFormula (.and (.or (.not (.leaf 'a')) (.not (.nor (.leaf 'b') (.leaf 'c'))))
      (.xor (.leaf 'b') (.leaf 'c')))
    = .error (.inconsistent (.complementOf (.nor (.leaf 'b') (.leaf 'c')))) := rfl

end Network

end SwitchLogic
