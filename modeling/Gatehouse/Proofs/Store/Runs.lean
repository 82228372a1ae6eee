import Gatehouse.Proofs.First
import Gatehouse.Proofs.Result
import Gatehouse.Proofs.Store.Memory

/-! # The listed users over a run

    Users are listed in no order, and loading may meet them in any: it succeeds or fails all
    the same, with the same store if it succeeds, and if it fails the fault is that of the first
    line met without a key (`load_eq_error_iff`).

    A loaded store is called for records, new keys and signs of life.  Whatever the calls, an
    owner has the key registered for it last, and before the first registration the one it is
    listed with.  `Reflects` says this of a store without following the calls one by one; every
    call keeps it (`Reflects.call`), and so every run does (`Reflects.run`). -/

namespace Gatehouse.MemoryStore

/-! ## Users met in any order -/

/-- Is the line of the user one without a key? -/
def LacksKey (user : String × String) : Prop := ∀ key, AuthorizedKey.parse user.2 ≠ .ok key

theorem not_lacksKey_iff {user : String × String} :
    ¬ LacksKey user ↔ ∃ key, AuthorizedKey.parse user.2 = .ok key := by
  unfold LacksKey
  rw [Classical.not_forall]
  simp only [ne_eq, Classical.not_not]

/-- Loading fails with the fault of the first user whose line has no key. -/
theorem load_eq_error_iff {store : MemoryStore} {entries : List (String × String)}
    {e : InvalidUserKey} :
    load store entries = .error e ↔
      ∃ line, IsFirst LacksKey entries (e.owner, line) ∧
        AuthorizedKey.parse line = .error e.fault := by
  induction entries generalizing store with
  | nil => simp [load]
  | cons user entries ih =>
    obtain ⟨owner, text⟩ := user
    cases htext : AuthorizedKey.parse text with
    | error fault =>
      have hlacks : LacksKey (owner, text) := by
        intro key hkey
        rw [htext] at hkey
        cases hkey
      simp only [load, htext, isFirst_cons_of_pos hlacks, Except.error.injEq, Prod.mk.injEq]
      constructor
      · rintro rfl
        exact ⟨text, ⟨rfl, rfl⟩, htext⟩
      · rintro ⟨line, ⟨howner, rfl⟩, hline⟩
        have hfault : fault = e.fault := Except.error.inj (htext.symm.trans hline)
        rw [← howner, hfault]
    | ok key =>
      have hgives : ¬ LacksKey (owner, text) := not_lacksKey_iff.2 ⟨key, htext⟩
      simp only [isFirst_cons_of_neg hgives, load, htext]
      exact ih

/-- The canonical blob of the line that an owner is listed with. -/
def listedKey (users : Directory String) (owner : String) : Option (List UInt8) :=
  (users.get? owner).bind fun line => (AuthorizedKey.parse line).toOption.map AuthorizedKey.blob

section loading
variable {users : Directory String} {met : List (String × String)}

/-- Loading succeeds if all lines hold keys, whichever comes first. -/
theorem exists_load_iff_of_perm (horder : met.Perm users.entries) :
    (∃ store, load Directory.empty met = .ok store) ↔
      ∀ owner line, users.get? owner = some line → ∃ key, AuthorizedKey.parse line = .ok key := by
  rw [exists_load_iff]
  constructor
  · intro h owner line hline
    exact h (owner, line) (horder.mem_iff.2 (Directory.get?_eq_some_iff.1 hline))
  · rintro h ⟨owner, line⟩ hmem
    exact h owner line (Directory.get?_eq_some_iff.2 (horder.mem_iff.1 hmem))

/-- Each owner is loaded with the blob of its own line, and nobody else is. -/
theorem get?_of_load (horder : met.Perm users.entries) {store : MemoryStore}
    (hload : load Directory.empty met = .ok store) (owner : String) :
    store.get? owner = listedKey users owner := by
  have hdistinct : met.Pairwise fun a b => a.1 ≠ b.1 :=
    (horder.pairwise_iff fun hab => Ne.symm hab).2 users.distinct
  obtain ⟨hlisted, hunlisted⟩ := get?_load hload hdistinct owner
  unfold listedKey
  cases hline : users.get? owner with
  | none =>
    have hnone : ∀ line, (owner, line) ∉ met := fun line hmem =>
      Directory.get?_eq_none_iff.1 hline line (horder.mem_iff.1 hmem)
    rw [hunlisted hnone]
    rfl
  | some line =>
    obtain ⟨key, hkey, hget⟩ :=
      hlisted line (horder.mem_iff.2 (Directory.get?_eq_some_iff.1 hline))
    rw [hget, Option.bind_some, hkey]
    rfl

/-- What is loaded does not depend on the order. -/
theorem load_eq_ok_iff_of_perm (horder : met.Perm users.entries) {store : MemoryStore} :
    load Directory.empty met = .ok store ↔ ofUsers users = .ok store := by
  -- Both orders succeed for the same lines, and stores with the same keys are the same.
  have hown : users.entries.Perm users.entries := List.Perm.refl _
  have hsame : ∀ {loaded loaded' : MemoryStore}, load Directory.empty met = .ok loaded →
      ofUsers users = .ok loaded' → loaded = loaded' := by
    intro loaded loaded' hload hload'
    apply Directory.ext_get?
    intro owner
    rw [get?_of_load horder hload, get?_of_load hown hload']
  have hboth : (∃ loaded, load Directory.empty met = .ok loaded) ↔
      ∃ loaded, ofUsers users = .ok loaded := by
    unfold ofUsers
    rw [exists_load_iff_of_perm horder, exists_load_iff_of_perm hown]
  constructor
  · intro h
    obtain ⟨loaded, hloaded⟩ := hboth.1 ⟨store, h⟩
    rw [hsame h hloaded, hloaded]
  · intro h
    obtain ⟨loaded, hloaded⟩ := hboth.2 ⟨store, h⟩
    rw [← hsame hloaded h, hloaded]

end loading

/-! ## Calls and what they leave behind -/

namespace Call

/-- The key that a call registers for an owner. -/
def keyFor? (owner : String) : Call → Option (List UInt8)
  | .insert name key => if name = owner then some key else none
  | .lookup _        => none
  | .ping            => none

/-- The owner that a call registers a key for. -/
def owner? : Call → Option String
  | .insert owner _ => some owner
  | .lookup _       => none
  | .ping           => none

theorem isSome_keyFor?_iff {c : Call} {owner : String} :
    (c.keyFor? owner).isSome ↔ c.owner? = some owner := by
  cases c with
  | insert name key => by_cases h : name = owner <;> simp [keyFor?, owner?, h]
  | lookup name => simp [keyFor?, owner?]
  | ping => simp [keyFor?, owner?]

end Call

/-- A call gives an owner the key that it registers for it, and else leaves what there is. -/
theorem get?_call (store : MemoryStore) (c : Call) (owner : String) :
    (store.call c).2.get? owner = (c.keyFor? owner).or (store.get? owner) := by
  cases c with
  | insert name key =>
    show (Directory.insert store name key).get? owner = _
    rw [Directory.get?_insert, Call.keyFor?]
    by_cases h : owner = name
    · rw [if_pos h, if_pos h.symm, Option.some_or]
    · rw [if_neg h, if_neg (Ne.symm h), Option.none_or]
  | lookup name => rfl
  | ping => rfl

/-- Nothing but a registration changes a store. -/
theorem call_of_owner?_eq_none (store : MemoryStore) {c : Call} (h : c.owner? = none) :
    (store.call c).2 = store := by
  cases c with
  | insert name key => cases h
  | lookup name => rfl
  | ping => rfl

/-- An owner's record is its key, under its own name. -/
theorem lookup_eq (store : MemoryStore) (owner : String) :
    store.lookup owner =
      (store.get? owner).elim (.error (.notFound owner)) fun key => .ok ⟨owner, key⟩ := by
  unfold lookup
  cases store.get? owner <;> rfl

/-- A registration for one owner leaves the records of the others alone. -/
theorem lookup_call_insert_of_ne (store : MemoryStore) {owner other : String}
    (h : other ≠ owner) (key : List UInt8) :
    (store.call (.insert owner key)).2.lookup other = store.lookup other := by
  rw [lookup_eq, lookup_eq, get?_call, Call.keyFor?, if_neg (Ne.symm h), Option.none_or]

/-! ## What a store reflects -/

/-- The key that an owner has after the calls: the one that was registered last, or else the
    listed one. -/
def currentKey (users : Directory String) (calls : List Call) (owner : String) :
    Option (List UInt8) :=
  (calls.filterMap (·.keyFor? owner)).getLast?.or (listedKey users owner)

/-- The owners that are listed or that a call registered a key for. -/
def owners (users : Directory String) (calls : List Call) : Finset String :=
  (users.entries.map (·.1) ++ calls.filterMap Call.owner?).toFinset

/-- The store is the one that the listed users and the calls leave. -/
structure Reflects (store : MemoryStore) (users : Directory String) (calls : List Call) : Prop where
  keys   : ∀ owner, store.get? owner = currentKey users calls owner
  owners : ∀ owner, owner ∈ owners users calls ↔ (store.get? owner).isSome

section reflects
variable {users : Directory String} {store : MemoryStore} {calls : List Call}

/-- A store that was just loaded reflects the users alone. -/
theorem reflects_of_load {met : List (String × String)} (horder : met.Perm users.entries)
    (hload : load Directory.empty met = .ok store) : store.Reflects users [] where
  keys := get?_of_load horder hload
  owners owner := by
    have hkeys := (exists_load_iff_of_perm horder).1 ⟨store, hload⟩
    have hlisted : owner ∈ MemoryStore.owners users [] ↔ (users.get? owner).isSome := by
      unfold MemoryStore.owners
      rw [List.filterMap_nil, List.append_nil, List.mem_toFinset, Directory.mem_names_iff]
    rw [hlisted, get?_of_load horder hload, listedKey]
    cases hline : users.get? owner with
    | none => rfl
    | some line =>
      obtain ⟨key, hkey⟩ := hkeys owner line hline
      rw [Option.bind_some, hkey]
      rfl

theorem currentKey_concat (c : Call) (owner : String) :
    currentKey users (calls ++ [c]) owner =
      (c.keyFor? owner).or (currentKey users calls owner) := by
  unfold currentKey
  rw [List.filterMap_append, List.filterMap_cons, List.filterMap_nil]
  cases c.keyFor? owner with
  | none => rw [List.append_nil, Option.none_or]
  | some key => rw [List.getLast?_concat, Option.some_or, Option.some_or]

theorem mem_owners_concat {c : Call} {owner : String} :
    owner ∈ owners users (calls ++ [c]) ↔ owner ∈ owners users calls ∨ c.owner? = some owner := by
  simp only [owners, List.mem_toFinset, List.mem_append, List.filterMap_append,
    List.mem_filterMap, List.mem_singleton, exists_eq_left, or_assoc]

/-- Every call keeps a store in step with what happened. -/
theorem Reflects.call (h : store.Reflects users calls) (c : Call) :
    (store.call c).2.Reflects users (calls ++ [c]) where
  keys owner := by rw [get?_call, h.keys, currentKey_concat]
  owners owner := by
    rw [mem_owners_concat, h.owners, get?_call, Option.isSome_or, Bool.or_eq_true,
      Call.isSome_keyFor?_iff, or_comm]

theorem Reflects.run (h : store.Reflects users []) (calls : List Call) :
    (store.run calls).2.Reflects users calls :=
  inTurn_invariant MemoryStore.call (P := fun store calls => Reflects store users calls)
    (fun _ _ c hreflects => hreflects.call c) h calls

/-- Every owner's record is its current key, under its own name. -/
theorem Reflects.lookup (h : store.Reflects users calls) (owner : String) :
    store.lookup owner = (currentKey users calls owner).elim (.error (.notFound owner))
      fun key => .ok ⟨owner, key⟩ := by
  rw [lookup_eq, h.keys]

theorem Reflects.size (h : store.Reflects users calls) :
    Directory.size store = (MemoryStore.owners users calls).card :=
  Directory.size_eq_card h.owners

end reflects

/-- The answer to a call after others, by what the users and those calls leave. -/
def answerAfter (users : Directory String) (before : List Call) : Call → Answer
  | .insert _ _   => .inserted
  | .lookup owner =>
    .found ((currentKey users before owner).elim (.error (.notFound owner)) fun key => .ok ⟨owner, key⟩)
  | .ping         => .pinged (.ok ())

theorem Reflects.answer {users : Directory String} {store : MemoryStore} {before : List Call}
    (h : store.Reflects users before) (c : Call) :
    (store.call c).1 = answerAfter users before c := by
  cases c with
  | insert owner key => rfl
  | lookup owner => exact congrArg Answer.found (h.lookup owner)
  | ping => rfl

/-- Users that are listed make the same store in whichever order they are met, and none if some
    line has no key; then the first such user met is reported.  Over any calls the store is a map:
    a lookup finds the key registered last for the owner, or else the listed one, the size is the
    number of owners that ever had one, and only a registration changes anything, for its owner. -/
theorem run_of_users {users : Directory String} {met : List (String × String)}
    (horder : met.Perm users.entries) :
    ((∃ store, load Directory.empty met = .ok store) ↔
        ∀ owner line, users.get? owner = some line → ∃ key, AuthorizedKey.parse line = .ok key) ∧
      (∀ e, load Directory.empty met = .error e ↔
        ∃ line, users.get? e.owner = some line ∧ IsFirst LacksKey met (e.owner, line) ∧
          AuthorizedKey.parse line = .error e.fault) ∧
      ∀ store, load Directory.empty met = .ok store →
        ofUsers users = .ok store ∧
          (∀ owner, store.get? owner = listedKey users owner) ∧
          ∀ calls,
            (store.run calls).1.length = calls.length ∧
              (∀ i c, calls[i]? = some c →
                (store.run calls).1[i]? = some (answerAfter users (calls.take i) c)) ∧
              Directory.size (store.run calls).2 = (owners users calls).card ∧
              (Directory.isEmpty (store.run calls).2 = true ↔
                Directory.size (store.run calls).2 = 0) ∧
              (∀ c : Call, c.owner? = none → ((store.run calls).2.call c).2 = (store.run calls).2) ∧
              ∀ owner key other, other ≠ owner →
                ((store.run calls).2.call (.insert owner key)).2.lookup other =
                  (store.run calls).2.lookup other := by
  refine ⟨exists_load_iff_of_perm horder, ?_, ?_⟩
  · intro e
    rw [load_eq_error_iff]
    constructor
    · rintro ⟨line, hfirst, hline⟩
      have hlisted : users.get? e.owner = some line :=
        Directory.get?_eq_some_iff.2 (horder.mem_iff.1 hfirst.mem)
      exact ⟨line, hlisted, hfirst, hline⟩
    · rintro ⟨line, -, hfirst, hline⟩
      exact ⟨line, hfirst, hline⟩
  · intro store hload
    -- The store after the calls is known by what they registered, not by following them.
    have hreflects : ∀ calls, (store.run calls).2.Reflects users calls :=
      (reflects_of_load horder hload).run
    refine ⟨(load_eq_ok_iff_of_perm horder).1 hload, get?_of_load horder hload, ?_⟩
    intro calls
    refine ⟨length_inTurn call store calls, ?_, (hreflects calls).size, ?_, ?_, ?_⟩
    · intro i c hc
      have hanswer := (hreflects (calls.take i)).answer c
      unfold run at hanswer ⊢
      rw [getElem?_inTurn, hc, Option.map_some, hanswer]
    · unfold Directory.isEmpty Directory.size
      rw [List.isEmpty_iff, List.length_eq_zero_iff]
    · intro c hc
      exact call_of_owner?_eq_none _ hc
    · intro owner key other hother
      exact lookup_call_insert_of_ne _ hother key

/-- Two owners whose names differ in case only, met in descending order, and a third one who is
    registered later: each has a key of its own. -/
theorem run_of_users_case :
    let line := "ssh-rsa AAAADHJzYS1zaGEyLTUxMgAAAAMBAAEAAAADAP8B"
    let blob : List UInt8 := [0, 0, 0, 7, 0x73, 0x73, 0x68, 0x2d, 0x72, 0x73, 0x61, 0, 0, 0, 3, 1,
      0, 1, 0, 0, 0, 3, 0, 255, 1]
    let users := Directory.ofList [("alice", line), ("Alice", "no-pty " ++ line)]
    let met := [("alice", line), ("Alice", "no-pty " ++ line)]
    let calls : List Call := [.insert "alice" [1], .insert "bob" [2], .insert "alice" [3], .ping,
      .lookup "alice", .lookup "Alice", .lookup "carol"]
    met.Perm users.entries ∧ ∃ store, load Directory.empty met = .ok store ∧
      (store.run calls).1[4]? = some (.found (.ok ⟨"alice", [3]⟩)) ∧
      (store.run calls).1[5]? = some (.found (.ok ⟨"Alice", blob⟩)) ∧
      (store.run calls).1[6]? = some (.found (.error (.notFound "carol"))) ∧
      Directory.size (store.run calls).2 = 3 := by
  intro line blob users met calls
  have horder : met.Perm users.entries := by decide +kernel
  obtain ⟨hloads, -, hruns⟩ := run_of_users horder
  have hkeys : ∀ owner text, users.get? owner = some text →
      ∃ key, AuthorizedKey.parse text = .ok key := by
    intro owner text htext
    have hmem := horder.mem_iff.2 (Directory.get?_eq_some_iff.1 htext)
    rcases List.mem_cons.1 hmem with heq | hmem
    · obtain ⟨-, rfl⟩ := Prod.mk.inj heq
      exact ⟨⟨"ssh-rsa", blob, none⟩, ok_of_toOption (by decide +kernel)⟩
    · obtain ⟨-, rfl⟩ := Prod.mk.inj (List.mem_singleton.1 hmem)
      exact ⟨⟨"ssh-rsa", blob, none⟩, ok_of_toOption (by decide +kernel)⟩
  obtain ⟨store, hstore⟩ := hloads.2 hkeys
  obtain ⟨-, -, hrun⟩ := hruns store hstore
  obtain ⟨-, hanswers, hsize, -, -, -⟩ := hrun calls
  refine ⟨horder, store, hstore, ?_, ?_, ?_, ?_⟩
  · rw [hanswers 4 (.lookup "alice") rfl, answerAfter]
    have hkey : currentKey users (calls.take 4) "alice" = some [3] := by decide +kernel
    rw [hkey]
    rfl
  · rw [hanswers 5 (.lookup "Alice") rfl, answerAfter]
    have hkey : currentKey users (calls.take 5) "Alice" = some blob := by decide +kernel
    rw [hkey]
    rfl
  · rw [hanswers 6 (.lookup "carol") rfl, answerAfter]
    have hkey : currentKey users (calls.take 6) "carol" = none := by decide +kernel
    rw [hkey]
    rfl
  · rw [hsize]
    decide +kernel

end Gatehouse.MemoryStore
