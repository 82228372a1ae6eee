import Gatehouse.Proofs.Route
import Mathlib.Data.Finset.Card

/-! # Fingerprints in the order of first mention

    `ListsOnce fs r` says of a list without going through it that it lists what `fs` lists, each
    fingerprint once, and in the order in which `fs` mentions them first.  There is one such
    list at most (`ListsOnce.unique`).

    A set that is collected from a list is always the one for the part collected so far:
    putting one more fingerprint to it keeps this (`ListsOnce.insert`), and so it holds at the
    end (`listsOnce_ofList`). -/

namespace Gatehouse

namespace FingerprintSet

/-! ## Lists in the order of first mention -/

/-- The second list has the fingerprints of the first, each once, in the order of their first
    mentions. -/
structure ListsOnce (fs r : List String) : Prop where
  nodup : r.Nodup
  mem   : ∀ f, f ∈ r ↔ f ∈ fs
  order : ∀ f ∈ fs, ∀ g ∈ fs, (r.idxOf f < r.idxOf g ↔ fs.idxOf f < fs.idxOf g)

/-- A list without repetitions is in this order already. -/
theorem listsOnce_self {r : List String} (h : r.Nodup) : ListsOnce r r where
  nodup := h
  mem _ := Iff.rfl
  order _ _ _ _ := Iff.rfl

/-- A list without repetitions is sorted by where its elements stand. -/
theorem pairwise_idxOf {r : List String} (h : r.Nodup) :
    r.Pairwise fun f g => r.idxOf f < r.idxOf g := by
  rw [List.pairwise_iff_getElem]
  intro i j hi hj hij
  rw [h.idxOf_getElem i hi, h.idxOf_getElem j hj]
  exact hij

/-- The first mentions of a list leave no choice. -/
theorem ListsOnce.unique {fs r r' : List String} (h : ListsOnce fs r) (h' : ListsOnce fs r') :
    r = r' := by
  have hperm : r.Perm r' := by
    rw [List.perm_ext_iff_of_nodup h.nodup h'.nodup]
    intro f
    rw [h.mem, h'.mem]
  -- Both are sorted by the places of first mention, and two fingerprints never share one.
  have hsorted : r.Pairwise fun f g => fs.idxOf f < fs.idxOf g :=
    (pairwise_idxOf h.nodup).imp_of_mem fun hf hg =>
      (h.order _ ((h.mem _).1 hf) _ ((h.mem _).1 hg)).1
  have hsorted' : r'.Pairwise fun f g => fs.idxOf f < fs.idxOf g :=
    (pairwise_idxOf h'.nodup).imp_of_mem fun hf hg =>
      (h'.order _ ((h'.mem _).1 hf) _ ((h'.mem _).1 hg)).1
  exact hperm.eq_of_pairwise (fun f g _ _ hfg hgf => absurd hfg (Nat.lt_asymm hgf)) hsorted hsorted'

/-! ## Collecting -/

/-- The first mention of a fingerprint that comes last and is new. -/
theorem idxOf_append_new {fs : List String} {f : String} (hf : f ∉ fs) :
    (fs ++ [f]).idxOf f = fs.length := by
  rw [List.idxOf_append_of_notMem hf, List.idxOf_cons_self, Nat.add_zero]

/-- A fingerprint that was mentioned before changes no first mention. -/
theorem ListsOnce.append_known {fs r : List String} {f : String} (h : ListsOnce fs r)
    (hf : f ∈ fs) : ListsOnce (fs ++ [f]) r where
  nodup := h.nodup
  mem g := by
    rw [h.mem, List.mem_append, List.mem_singleton]
    constructor
    · exact Or.inl
    · rintro (hg | rfl)
      · exact hg
      · exact hf
  order g hg k hk := by
    have hback : ∀ x ∈ fs ++ [f], x ∈ fs := by
      intro x hx
      rcases List.mem_append.1 hx with hx | hx
      · exact hx
      · rw [List.mem_singleton.1 hx]
        exact hf
    rw [List.idxOf_append_of_mem (hback g hg), List.idxOf_append_of_mem (hback k hk)]
    exact h.order g (hback g hg) k (hback k hk)

/-- A fingerprint that was not comes last in both. -/
theorem ListsOnce.append_new {fs r : List String} {f : String} (h : ListsOnce fs r)
    (hf : f ∉ fs) : ListsOnce (fs ++ [f]) (r ++ [f]) where
  nodup := by
    have hr : f ∉ r := fun hr => hf ((h.mem f).1 hr)
    rw [List.nodup_append]
    refine ⟨h.nodup, List.nodup_singleton f, ?_⟩
    rintro g hg _ hf rfl
    rw [List.mem_singleton.1 hf] at hg
    exact hr hg
  mem g := by
    rw [List.mem_append, List.mem_append, h.mem]
  order g hg k hk := by
    have hr : f ∉ r := fun hr => hf ((h.mem f).1 hr)
    have hearlier : ∀ x ∈ fs, fs.idxOf x < fs.length ∧ r.idxOf x < r.length := fun x hx =>
      ⟨List.idxOf_lt_length_of_mem hx, List.idxOf_lt_length_of_mem ((h.mem x).2 hx)⟩
    -- In both lists the new one comes after all others, and never before itself.
    rcases List.mem_append.1 hg with hg | hg
    · obtain ⟨hgfs, hgr⟩ := hearlier g hg
      rw [List.idxOf_append_of_mem hg, List.idxOf_append_of_mem ((h.mem g).2 hg)]
      rcases List.mem_append.1 hk with hk | hk
      · rw [List.idxOf_append_of_mem hk, List.idxOf_append_of_mem ((h.mem k).2 hk)]
        exact h.order g hg k hk
      · obtain rfl := List.mem_singleton.1 hk
        rw [idxOf_append_new hf, idxOf_append_new hr]
        exact iff_of_true hgr hgfs
    · obtain rfl := List.mem_singleton.1 hg
      rw [idxOf_append_new hf, idxOf_append_new hr]
      rcases List.mem_append.1 hk with hk | hk
      · obtain ⟨hkfs, hkr⟩ := hearlier k hk
        rw [List.idxOf_append_of_mem hk, List.idxOf_append_of_mem ((h.mem k).2 hk)]
        exact iff_of_false (Nat.lt_asymm hkr) (Nat.lt_asymm hkfs)
      · obtain rfl := List.mem_singleton.1 hk
        rw [idxOf_append_new hf, idxOf_append_new hr]
        exact iff_of_false (Nat.lt_irrefl _) (Nat.lt_irrefl _)

/-- A set that lists what was collected lists it with one more fingerprint collected. -/
theorem ListsOnce.insert {fs : List String} {s : FingerprintSet} (h : ListsOnce fs s.toList)
    (f : String) : ListsOnce (fs ++ [f]) (s.insert f).toList := by
  rw [toList_insert]
  by_cases hf : f ∈ s.toList
  · rw [if_pos hf]
    exact h.append_known ((h.mem f).1 hf)
  · rw [if_neg hf]
    exact h.append_new fun hfs => hf ((h.mem f).2 hfs)

theorem ofList_append_singleton (fs : List String) (f : String) :
    ofList (fs ++ [f]) = (ofList fs).insert f := by
  unfold ofList
  rw [List.foldl_append]
  rfl

theorem listsOnce_ofList (fs : List String) : ListsOnce fs (ofList fs).toList := by
  induction fs using List.reverseRecOn with
  | nil => exact listsOnce_self List.nodup_nil
  | append_singleton fs f ih =>
    rw [ofList_append_singleton]
    exact ih.insert f

/-! ## What follows -/

/-- More fingerprints leave those collected in their places and bring the new ones among them, in
    the order in which they would be collected alone. -/
theorem toList_ofList_append (fs gs : List String) :
    (ofList (fs ++ gs)).toList =
      (ofList fs).toList ++ (ofList gs).toList.filter fun g => g ∉ fs := by
  induction gs using List.reverseRecOn with
  | nil =>
    rw [List.append_nil]
    show (ofList fs).toList = (ofList fs).toList ++ []
    rw [List.append_nil]
  | append_singleton gs g ih =>
    rw [← List.append_assoc, ofList_append_singleton, ofList_append_singleton, toList_insert,
      toList_insert]
    simp only [mem_ofList, List.mem_append]
    -- One that was in the first list is filtered out; else it counts only if it is new.
    by_cases hfs : g ∈ fs
    · rw [if_pos (.inl hfs), ih]
      by_cases hgs : g ∈ gs
      · rw [if_pos hgs]
      · simp [hgs, hfs]
    · by_cases hgs : g ∈ gs
      · rw [if_pos (.inr hgs), if_pos hgs, ih]
      · rw [if_neg (by simp [hfs, hgs]), if_neg hgs, ih, List.filter_append, List.append_assoc]
        simp [hfs]

/-- The size of a set is the number of different fingerprints collected. -/
theorem size_ofList (fs : List String) : (ofList fs).size = fs.toFinset.card := by
  have hsame : fs.toFinset = (ofList fs).toList.toFinset := by
    ext f
    rw [List.mem_toFinset, List.mem_toFinset, mem_ofList]
  rw [hsame, List.toFinset_card_of_nodup (ofList fs).nodup]
  rfl

theorem isEmpty_ofList (fs : List String) : (ofList fs).isEmpty = true ↔ fs = [] := by
  unfold isEmpty
  rw [List.isEmpty_iff, List.eq_nil_iff_forall_not_mem, List.eq_nil_iff_forall_not_mem]
  simp only [mem_ofList]

/-- To collect fingerprints is to list each once, in the order of first mention, and there is no
    other way to do so.  Collecting what was collected changes nothing; more fingerprints come
    after those there are; and the size is the number of different ones. -/
theorem ofList_collects (fs : List String) :
    (∀ r, ListsOnce fs r ↔ r = (ofList fs).toList) ∧
      ofList (ofList fs).toList = ofList fs ∧
      (∀ gs, (ofList (fs ++ gs)).toList =
        (ofList fs).toList ++ (ofList gs).toList.filter fun g => g ∉ fs) ∧
      (ofList fs).size = fs.toFinset.card ∧
      ((ofList fs).isEmpty = true ↔ fs = []) := by
  refine ⟨?_, ?_, toList_ofList_append fs, size_ofList fs, isEmpty_ofList fs⟩
  · intro r
    constructor
    · intro h
      exact h.unique (listsOnce_ofList fs)
    · rintro rfl
      exact listsOnce_ofList fs
  · have hlist : (ofList (ofList fs).toList).toList = (ofList fs).toList :=
      (listsOnce_ofList _).unique (listsOnce_self (ofList fs).nodup)
    exact ext_toList hlist

end FingerprintSet

end Gatehouse
