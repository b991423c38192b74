/-! # Sets of names

    A set of signal names is the list of its members in increasing
    order, so equal sets are equal lists. -/

namespace SwitchLogic

/-- Inserts a character into an increasing list, unless it is there. -/
def insertName (c : Char) : List Char → List Char
  | [] => [c]
  | d :: rest =>
      if c < d then c :: d :: rest
      else if c = d then d :: rest
      else d :: insertName c rest

/-- Inserting adds the name and keeps the others. -/
theorem mem_insertName {c x : Char} {s : List Char} :
    x ∈ insertName c s ↔ x = c ∨ x ∈ s := by
  induction s with
  | nil => simp [insertName]
  | cons d rest ih =>
      simp only [insertName]
      split
      · simp
      · split
        · rename_i h; subst h; simp
        · simp only [List.mem_cons, ih]
          constructor
          · rintro (h | h | h) <;> simp [h]
          · rintro (h | h | h) <;> simp [h]

/-- Inserting keeps the order. -/
theorem pairwise_insertName {c : Char} {s : List Char} (h : s.Pairwise (· < ·)) :
    (insertName c s).Pairwise (· < ·) := by
  induction s with
  | nil => simp [insertName]
  | cons d rest ih =>
      obtain ⟨hd, hrest⟩ := List.pairwise_cons.mp h
      simp only [insertName]
      split
      · rename_i hlt
        refine List.pairwise_cons.mpr ⟨?_, h⟩
        intro x hx
        rcases List.mem_cons.mp hx with rfl | hx
        · exact hlt
        · exact Char.lt_trans hlt (hd x hx)
      · split
        · exact h
        · rename_i hlt hne
          refine List.pairwise_cons.mpr ⟨?_, ih hrest⟩
          intro x hx
          rcases mem_insertName.mp hx with rfl | hx
          · exact Decidable.byContradiction fun hge =>
              hne (Char.le_antisymm (Char.not_lt.mp hge) (Char.not_lt.mp hlt))
          · exact hd x hx

/-- A finite set of signal names. -/
structure NameSet where
  toList : List Char
  increasing : toList.Pairwise (· < ·)
  deriving DecidableEq

namespace NameSet

/-- The set without members. -/
def empty : NameSet := ⟨[], .nil⟩

/-- A set with one more member. -/
def insert (s : NameSet) (c : Char) : NameSet :=
  ⟨insertName c s.toList, pairwise_insertName s.increasing⟩

/-- The set of the characters of a list. -/
def ofList (cs : List Char) : NameSet := cs.foldl insert empty

/-- Whether a name is a member. -/
def contains (s : NameSet) (c : Char) : Bool := s.toList.contains c

instance : Membership Char NameSet := ⟨fun s c => c ∈ s.toList⟩

/-- A set with one more member has that member and its own. -/
@[simp] theorem mem_insert {s : NameSet} {c x : Char} :
    x ∈ s.insert c ↔ x = c ∨ x ∈ s := mem_insertName

@[simp] theorem not_mem_empty (x : Char) : x ∉ empty := List.not_mem_nil

/-- Membership can be tested. -/
theorem contains_iff {s : NameSet} {c : Char} : s.contains c = true ↔ c ∈ s :=
  List.contains_iff_mem

/-- A set is the list of its members. -/
theorem eq_of_toList_eq {s t : NameSet} (h : s.toList = t.toList) : s = t := by
  obtain ⟨cs, hcs⟩ := s
  obtain ⟨ds, hds⟩ := t
  obtain rfl : cs = ds := h
  rfl

end NameSet

end SwitchLogic
