import Gatehouse.Directory
import Mathlib.Data.Finset.Card

/-! # Entries of a directory

    In a directory each name stands once, so an entry is found by its name
    (`get?_eq_some_iff`), and directories are told apart by what they give names
    (`ext_get?`).  Entries in any order make the same directory, as long as no two have one
    name (`ofList_of_perm`). -/

namespace Gatehouse.Directory

variable {α : Type}

/-! ## Entries by their names -/

/-- Ascending names are distinct. -/
theorem distinct (d : Directory α) : d.entries.Pairwise fun a b => a.1 ≠ b.1 := by
  apply d.ascending.imp
  intro a b hlt heq
  rw [heq] at hlt
  exact String.lt_irrefl _ hlt

/-- Among distinct names each stands once, so an entry is found by its name. -/
theorem lookup_eq_some_iff {es : List (String × α)} (h : es.Pairwise fun a b => a.1 ≠ b.1)
    {name : String} {value : α} : es.lookup name = some value ↔ (name, value) ∈ es := by
  induction es with
  | nil => simp
  | cons e es ih =>
    obtain ⟨hfirst, hes⟩ := List.pairwise_cons.1 h
    rw [lookup_cons_ite, List.mem_cons]
    by_cases hname : name = e.1
    · rw [if_pos hname]
      constructor
      · intro hvalue
        exact .inl (Prod.ext hname (Option.some.inj hvalue).symm)
      · rintro (heq | hmem)
        · rw [← heq]
        · exact absurd hname.symm (hfirst _ hmem)
    · rw [if_neg hname, ih hes]
      constructor
      · exact .inr
      · rintro (heq | hmem)
        · exact absurd (congrArg Prod.fst heq) hname
        · exact hmem

theorem get?_eq_some_iff {d : Directory α} {name : String} {value : α} :
    d.get? name = some value ↔ (name, value) ∈ d.entries :=
  lookup_eq_some_iff d.distinct

theorem get?_eq_none_iff {d : Directory α} {name : String} :
    d.get? name = none ↔ ∀ value, (name, value) ∉ d.entries := by
  rw [Option.eq_none_iff_forall_ne_some]
  constructor
  · intro h value hmem
    exact h value (get?_eq_some_iff.2 hmem)
  · intro h value hget
    exact h value (get?_eq_some_iff.1 hget)

/-- Directories that give every name the same are the same: the order of the entries is fixed. -/
theorem ext_get? {d d' : Directory α} (h : ∀ name, d.get? name = d'.get? name) : d = d' := by
  have hnodup : ∀ d : Directory α, d.entries.Nodup := by
    intro d
    apply d.distinct.imp
    intro a b hne heq
    exact hne (congrArg Prod.fst heq)
  have hperm : d.entries.Perm d'.entries := by
    rw [List.perm_ext_iff_of_nodup (hnodup d) (hnodup d')]
    rintro ⟨name, value⟩
    rw [← get?_eq_some_iff, ← get?_eq_some_iff, h]
  have hentries : d.entries = d'.entries :=
    hperm.eq_of_pairwise (fun a b _ _ hab hba => absurd hab (String.lt_asymm hba))
      d.ascending d'.ascending
  cases d
  cases d'
  congr

/-! ## Names -/

theorem mem_names_iff {d : Directory α} {name : String} :
    name ∈ d.entries.map (·.1) ↔ (d.get? name).isSome := by
  rw [List.mem_map, Option.isSome_iff_exists]
  constructor
  · rintro ⟨⟨_, value⟩, hmem, rfl⟩
    exact ⟨value, get?_eq_some_iff.2 hmem⟩
  · rintro ⟨value, hget⟩
    exact ⟨(name, value), get?_eq_some_iff.1 hget, rfl⟩

/-- The size of a directory is the number of names that have a value. -/
theorem size_eq_card {d : Directory α} {names : Finset String}
    (h : ∀ name, name ∈ names ↔ (d.get? name).isSome) : d.size = names.card := by
  have hnodup : (d.entries.map (·.1)).Nodup := List.pairwise_map.2 d.distinct
  have hsame : names = (d.entries.map (·.1)).toFinset := by
    ext name
    rw [h, List.mem_toFinset, mem_names_iff]
  rw [hsame, List.toFinset_card_of_nodup hnodup, List.length_map]
  rfl

/-! ## Entries changed and reordered -/

/-- The directory with every value changed. -/
def map {β : Type} (f : α → β) (d : Directory α) : Directory β :=
  ⟨d.entries.map fun e => (e.1, f e.2), List.pairwise_map.2 d.ascending⟩

/-- Putting entries one after another into a directory, each name has the value it is put with;
    other names keep theirs. -/
theorem get?_foldl_insert (d : Directory α) {es : List (String × α)}
    (h : es.Pairwise fun a b => a.1 ≠ b.1) (name : String) :
    (es.foldl (fun d e => d.insert e.1 e.2) d).get? name = (es.lookup name).or (d.get? name) := by
  induction es generalizing d with
  | nil => rfl
  | cons e es ih =>
    obtain ⟨hfirst, hes⟩ := List.pairwise_cons.1 h
    rw [List.foldl_cons, ih _ hes, get?_insert, lookup_cons_ite]
    by_cases hname : name = e.1
    · -- No later entry has the name.
      have hlater : es.lookup name = none := by
        rw [Option.eq_none_iff_forall_ne_some]
        intro value hvalue
        exact hfirst _ ((lookup_eq_some_iff hes).1 hvalue) hname.symm
      rw [hlater, if_pos hname, if_pos hname]
      rfl
    · rw [if_neg hname, if_neg hname]

/-- A directory is made from its entries, in whichever order they come. -/
theorem ofList_of_perm {d : Directory α} {es : List (String × α)} (h : es.Perm d.entries) :
    ofList es = d := by
  have hdistinct : es.Pairwise fun a b => a.1 ≠ b.1 :=
    (h.pairwise_iff fun hab => Ne.symm hab).2 d.distinct
  -- An order makes no difference to what stands under a name.
  apply ext_get?
  intro name
  unfold ofList
  rw [get?_foldl_insert _ hdistinct, get?_empty, Option.or_none]
  ext value
  rw [lookup_eq_some_iff hdistinct, get?_eq_some_iff, h.mem_iff]

end Gatehouse.Directory
