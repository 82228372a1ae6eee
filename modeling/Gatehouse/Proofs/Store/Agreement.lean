import Gatehouse.Proofs.Verdict
import Gatehouse.Store.Database
import Gatehouse.Store.Memory

/-! # Stores with the same answers

    A key check reads a store through its lookups, so stores with the same lookups give the
    same verdicts.  Where both fail to answer, the check is undecided either way, and only
    the reason that each store gives can differ (`verify_of_sameButReasons`).

    Users that are listed and the same users as rows of a table are such stores: which row
    comes first is decided for each login name apart, so the order of the others and rows
    that repeat a name do not matter (`Database.lookup_of_holds`).

    Core Lean 4 only. -/

namespace Gatehouse

/-! ## Reasons of failure -/

/-- Every lookup has one result in both stores, or fails in both, each store with a reason of
    its own. -/
def Store.SameButReasons (store other : Store) : Prop :=
  ∀ owner, store.lookup owner = other.lookup owner ∨
    ∃ reason reason', store.lookup owner = .error (.unavailable reason) ∧
      other.lookup owner = .error (.unavailable reason')

theorem verify_of_sameButReasons {store other : Store} (h : store.SameButReasons other)
    (username line : String) :
    verify store username line = verify other username line ∨
      ∃ reason reason', verify store username line = .error (.store reason) ∧
        verify other username line = .error (.store reason') := by
  cases hdecode : Identity.decode username with
  | error e => exact .inl (by rw [verify_of_malformed line hdecode, verify_of_malformed line hdecode])
  | ok identity =>
    rcases h identity.owner with hsame | ⟨reason, reason', hfail, hfail'⟩
    · left
      unfold verify
      simp only [hdecode, hsame]
    · right
      exact ⟨reason, reason', verify_of_lookup_error line hdecode hfail,
        verify_of_lookup_error line hdecode hfail'⟩

/-! ## Users as rows -/

namespace Database

/-- The table holds the users: the first row of each is the one with its key, and there are no
    rows of others. -/
structure Holds (table : List UserRow) (users : MemoryStore) : Prop where
  listed   : ∀ owner key, users.get? owner = some key → ∃ before after,
    table = before ++ ⟨owner, some key⟩ :: after ∧ ∀ row ∈ before, row.loginName ≠ owner
  unlisted : ∀ owner, users.get? owner = none → ∀ row ∈ table, row.loginName ≠ owner

section rows
variable {table : List UserRow} {owner : String}

theorem firstRow_of_first {before after : List UserRow} {key : List UInt8}
    (htable : table = before ++ ⟨owner, some key⟩ :: after)
    (hbefore : ∀ row ∈ before, row.loginName ≠ owner) :
    (rows table).firstRow owner = .ok (some ⟨owner, key⟩) := by
  have hnone : before.find? (·.loginName = owner) = none := by
    rw [List.find?_eq_none]
    intro row hrow
    simpa using hbefore row hrow
  have hfind : table.find? (·.loginName = owner) = some ⟨owner, some key⟩ := by
    rw [htable, List.find?_append, hnone, Option.none_or]
    simp
  unfold firstRow
  simp only [hfind]

theorem firstRow_of_none (h : ∀ row ∈ table, row.loginName ≠ owner) :
    (rows table).firstRow owner = .ok none := by
  have hfind : table.find? (·.loginName = owner) = none := by
    rw [List.find?_eq_none]
    intro row hrow
    simpa using h row hrow
  unfold firstRow
  simp only [hfind]

/-- Asked for any owner, the table and the list say the same. -/
theorem lookup_of_holds {users : MemoryStore} (h : Holds table users) (owner : String) :
    (rows table).lookup owner = users.lookup owner := by
  unfold lookup MemoryStore.lookup
  cases hget : users.get? owner with
  | none => rw [firstRow_of_none (h.unlisted owner hget)]
  | some key =>
    obtain ⟨before, after, htable, hbefore⟩ := h.listed owner key hget
    rw [firstRow_of_first htable hbefore]

end rows

/-- As stores the two do not even differ in reasons. -/
theorem sameButReasons_of_holds {table : List UserRow} {users : MemoryStore}
    (h : Holds table users) : users.toStore.SameButReasons (rows table).toStore :=
  fun owner => .inl (lookup_of_holds h owner).symm

end Database

end Gatehouse
