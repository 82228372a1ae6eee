import Gatehouse.Proofs.Directory
import Gatehouse.Store.Memory

/-! # Loading the listed users

    Loading goes through the entries one after another.  It succeeds exactly when every
    line holds a key (`exists_load_iff`), and then each owner has the canonical blob of the
    line it is listed with (`get?_load`). -/

namespace Gatehouse

/-! ## Loading -/

namespace MemoryStore

/-- Loading succeeds if every line holds a key, and only then. -/
theorem exists_load_iff (store : MemoryStore) (entries : List (String × String)) :
    (∃ loaded, load store entries = .ok loaded) ↔
      ∀ e ∈ entries, ∃ key, AuthorizedKey.parse e.2 = .ok key := by
  induction entries generalizing store with
  | nil => simp [load]
  | cons e entries ih =>
    obtain ⟨owner, line⟩ := e
    rw [List.forall_mem_cons]
    cases hline : AuthorizedKey.parse line with
    | error fault => simp [load, hline]
    | ok key =>
      rw [← ih (store.insert owner key.blob)]
      simp [load, hline]

/-- An owner has the blob of its line, if it is listed, and keeps its record otherwise. -/
theorem get?_load {store loaded : MemoryStore} {entries : List (String × String)}
    (hload : load store entries = .ok loaded)
    (hdistinct : entries.Pairwise fun a b => a.1 ≠ b.1) (owner : String) :
    (∀ line, (owner, line) ∈ entries →
      ∃ key, AuthorizedKey.parse line = .ok key ∧ loaded.get? owner = some key.blob) ∧
    ((∀ line, (owner, line) ∉ entries) → loaded.get? owner = store.get? owner) := by
  induction entries generalizing store with
  | nil =>
    obtain rfl : store = loaded := Except.ok.inj hload
    simp
  | cons e entries ih =>
    obtain ⟨name, text⟩ := e
    obtain ⟨hfirst, hrest⟩ := List.pairwise_cons.1 hdistinct
    cases htext : AuthorizedKey.parse text with
    | error fault =>
      simp only [load, htext] at hload
      cases hload
    | ok key =>
      simp only [load, htext] at hload
      obtain ⟨hlisted, hother⟩ := ih hload hrest
      constructor
      · intro line hmem
        rcases List.mem_cons.1 hmem with heq | hmem
        · -- The entry just loaded: no later one has its name.
          obtain ⟨rfl, rfl⟩ := Prod.mk.inj heq
          refine ⟨key, htext, ?_⟩
          have hlater : ∀ line, (owner, line) ∉ entries := fun line hmem =>
            hfirst _ hmem rfl
          rw [hother hlater, Directory.get?_insert, if_pos rfl]
        · exact hlisted line hmem
      · intro hnone
        have hname : owner ≠ name := fun heq => hnone text (by simp [heq])
        rw [hother fun line hmem => hnone line (List.mem_cons_of_mem _ hmem),
          Directory.get?_insert, if_neg hname]

/-! ## The store of a user map -/

section ofUsers
variable {users : Directory String} {store : MemoryStore} {owner : String}

theorem lookup_of_listed {line : String} (h : ofUsers users = .ok store)
    (hline : users.get? owner = some line) :
    ∃ key, AuthorizedKey.parse line = .ok key ∧ store.lookup owner = .ok ⟨owner, key.blob⟩ := by
  obtain ⟨key, hkey, hget⟩ :=
    (get?_load h users.distinct owner).1 line (Directory.get?_eq_some_iff.1 hline)
  refine ⟨key, hkey, ?_⟩
  unfold lookup
  rw [hget]

theorem lookup_of_unlisted (h : ofUsers users = .ok store) (hnone : users.get? owner = none) :
    store.lookup owner = .error (.notFound owner) := by
  have hget := (get?_load h users.distinct owner).2 (Directory.get?_eq_none_iff.1 hnone)
  unfold lookup
  rw [hget, Directory.get?_empty]

end ofUsers

end MemoryStore

end Gatehouse
