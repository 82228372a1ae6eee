/-! # Directories

    A directory maps names to values, each name once.  The entries are kept in ascending
    order of their names, so that two directories with the same entries are equal.

    `get?_insert` is the whole theory of a directory: a name has the value that was last
    inserted for it.

    Core Lean 4 only. -/

namespace Gatehouse

/-- A finite map from names to values. -/
structure Directory (α : Type) where
  /-- The entries, in ascending order of their names. -/
  entries   : List (String × α)
  ascending : entries.Pairwise fun a b => a.1 < b.1
  deriving DecidableEq

namespace Directory

variable {α : Type}

/-! ## Entries in ascending order -/

/-- Puts an entry in its place, where it replaces the entry of the same name. -/
def insertEntry (name : String) (value : α) : List (String × α) → List (String × α)
  | []     => [(name, value)]
  | e :: r =>
    if name < e.1 then (name, value) :: e :: r
    else if name = e.1 then (name, value) :: r
    else e :: insertEntry name value r

theorem mem_insertEntry {name : String} {value : α} {es : List (String × α)}
    {e : String × α} (h : e ∈ insertEntry name value es) : e = (name, value) ∨ e ∈ es := by
  induction es with
  | nil => simpa [insertEntry] using h
  | cons d r ih =>
    unfold insertEntry at h
    split at h
    · simpa using h
    · split at h
      · rcases List.mem_cons.1 h with h | h
        · exact Or.inl h
        · exact Or.inr (List.mem_cons_of_mem _ h)
      · rcases List.mem_cons.1 h with h | h
        · exact Or.inr (by simp [h])
        · exact (ih h).imp id (List.mem_cons_of_mem _)

theorem lt_of_not_lt_of_ne {a b : String} (h₁ : ¬ a < b) (h₂ : a ≠ b) : b < a := by
  rcases Decidable.em (b < a) with h | h
  · exact h
  · exact absurd (String.le_antisymm (String.not_lt.1 h) (String.not_lt.1 h₁)) h₂

theorem insertEntry_ascending (name : String) (value : α) {es : List (String × α)}
    (h : es.Pairwise fun a b => a.1 < b.1) :
    (insertEntry name value es).Pairwise fun a b => a.1 < b.1 := by
  induction es with
  | nil => simp [insertEntry]
  | cons d r ih =>
    obtain ⟨hd, hr⟩ := List.pairwise_cons.1 h
    unfold insertEntry
    split
    · rename_i hlt
      refine List.pairwise_cons.2 ⟨fun e he => ?_, h⟩
      rcases List.mem_cons.1 he with rfl | he
      · exact hlt
      · exact String.lt_trans hlt (hd e he)
    · split
      · rename_i heq
        exact List.pairwise_cons.2 ⟨fun e he => by simpa [heq] using hd e he, hr⟩
      · rename_i hlt hne
        refine List.pairwise_cons.2 ⟨fun e he => ?_, ih hr⟩
        rcases mem_insertEntry he with rfl | he
        · exact lt_of_not_lt_of_ne hlt hne
        · exact hd e he

/-! ## The directory -/

/-- The directory without entries. -/
def empty : Directory α := ⟨[], List.Pairwise.nil⟩

instance : EmptyCollection (Directory α) := ⟨empty⟩

/-- Gives a name a value, in place of the one it had. -/
def insert (d : Directory α) (name : String) (value : α) : Directory α :=
  ⟨insertEntry name value d.entries, insertEntry_ascending name value d.ascending⟩

/-- The value of a name. -/
def get? (d : Directory α) (name : String) : Option α := d.entries.lookup name

/-- The number of names. -/
def size (d : Directory α) : Nat := d.entries.length

def isEmpty (d : Directory α) : Bool := d.entries.isEmpty

/-- Collects entries; of two with the same name the later one stays. -/
def ofList (entries : List (String × α)) : Directory α :=
  entries.foldl (fun d e => d.insert e.1 e.2) empty

@[simp] theorem get?_empty (name : String) : (empty : Directory α).get? name = none := rfl

/-- Looking a name up in entries, the first of which is known. -/
theorem lookup_cons_ite (other : String) (e : String × α) (es : List (String × α)) :
    (e :: es).lookup other = if other = e.1 then some e.2 else es.lookup other := by
  obtain ⟨name, value⟩ := e
  rw [List.lookup_cons]
  by_cases h : other = name
  · simp [h]
  · have hb : (other == name) = false := by simpa using h
    simp [h, hb]

theorem lookup_insertEntry (name : String) (value : α) (other : String)
    {es : List (String × α)} (h : es.Pairwise fun a b => a.1 < b.1) :
    (insertEntry name value es).lookup other =
      if other = name then some value else es.lookup other := by
  induction es with
  | nil => simp [insertEntry, lookup_cons_ite]
  | cons d r ih =>
    obtain ⟨_, hr⟩ := List.pairwise_cons.1 h
    unfold insertEntry
    split
    · rw [lookup_cons_ite]
    · split
      · rename_i heq
        rw [lookup_cons_ite, lookup_cons_ite]
        by_cases ho : other = name
        · simp [ho]
        · have hd : other ≠ d.1 := fun e => ho (e.trans heq.symm)
          simp [ho, hd]
      · rename_i hne
        rw [lookup_cons_ite, lookup_cons_ite, ih hr]
        by_cases hd : other = d.1
        · simp [hd, Ne.symm hne]
        · simp [hd]

/-- A name has the value that was inserted for it last. -/
theorem get?_insert (d : Directory α) (name : String) (value : α) (other : String) :
    (d.insert name value).get? other = if other = name then some value else d.get? other :=
  lookup_insertEntry name value other d.ascending

end Directory

end Gatehouse
