import Gatehouse.Proofs.Config.Validity
import Gatehouse.Proofs.Identity
import Gatehouse.Proofs.Result
import Gatehouse.Proofs.Store.Memory
import Gatehouse.Proofs.Verdict
import Gatehouse.Store.Build

/-! # The listed users and nobody else

    A configuration that lists its users passes three hands before a key is checked: the
    validation, the building of the store and the reading of the username.  The validation
    is what makes them fit.  It admits only owners that some username names and lines that
    hold a key (`checkUsers_eq_ok_iff`), so that the store can always be built from a valid
    configuration (`build_of_validate`), and each listed owner can be reached in it. -/

namespace Gatehouse

/-! ## What the validation admits -/

/-- Users are admitted if usernames can name them and their lines hold keys, and only then. -/
theorem checkUsers_eq_ok_iff {entries : List (String × String)} :
    checkUsers entries = .ok () ↔
      ∀ e ∈ entries, Identity.IsSegment e.1 ∧ ∃ key, AuthorizedKey.parse e.2 = .ok key := by
  induction entries with
  | nil => simp [checkUsers]
  | cons e entries ih =>
    obtain ⟨owner, line⟩ := e
    rw [List.forall_mem_cons]
    cases hname : Identity.encode owner "x" with
    | error fault =>
      -- The probe target is a segment, so the fault lies with the owner.
      have howner : ¬ Identity.IsSegment owner := by
        intro howner
        have hx : Identity.IsSegment "x" := ⟨by decide, by decide⟩
        rw [Identity.encode_eq_ok_iff.2 ⟨howner, hx, rfl⟩] at hname
        cases hname
      simp [checkUsers, hname, howner]
    | ok username =>
      have howner : Identity.IsSegment owner := (Identity.encode_eq_ok_iff.1 hname).1
      cases hline : AuthorizedKey.parse line with
      | error fault => simp [checkUsers, hname, hline]
      | ok key =>
        rw [← ih]
        simp [checkUsers, hname, hline, howner]

/-- Of a valid configuration that lists its users, the list was looked through to its end. -/
theorem Config.checkUsers_of_validate {c : Config} (hstatic : c.store.backend = .static)
    (hvalid : c.validate = .ok ()) : checkUsers c.store.users.entries = .ok () := by
  obtain ⟨-, -, hstore⟩ := Config.validate_eq_ok_iff.1 hvalid
  unfold StoreSection.validate at hstore
  simp only [hstatic] at hstore
  exact hstore

/-! ## The store of a valid configuration -/

/-- Listed users are taken from the section itself, whatever the world around it. -/
theorem StoreSection.build_of_static {s : StoreSection} {memory : MemoryStore}
    (hstatic : s.backend = .static) (hmemory : MemoryStore.ofUsers s.users = .ok memory)
    (environment : Environment) (connect : Connect) :
    s.build environment connect = .ok ⟨memory.toStore, !memory.isEmpty⟩ := by
  unfold StoreSection.build
  simp only [hstatic, hmemory]

/-- The store of a valid configuration that lists its users can be built. -/
theorem Config.build_of_validate {c : Config} (hstatic : c.store.backend = .static)
    (hvalid : c.validate = .ok ()) (environment : Environment) (connect : Connect) :
    ∃ memory, MemoryStore.ofUsers c.store.users = .ok memory ∧
      c.store.build environment connect = .ok ⟨memory.toStore, !memory.isEmpty⟩ := by
  have hchecked := checkUsers_eq_ok_iff.1 (checkUsers_of_validate hstatic hvalid)
  have hkeys : ∀ e ∈ c.store.users.entries, ∃ key, AuthorizedKey.parse e.2 = .ok key :=
    fun e he => (hchecked e he).2
  obtain ⟨memory, hmemory⟩ := (MemoryStore.exists_load_iff _ _).2 hkeys
  exact ⟨memory, hmemory, StoreSection.build_of_static hstatic hmemory environment connect⟩

/-! ## Key checks over listed users -/

section listed
variable {users : Directory String} {memory : MemoryStore}

/-- A key check for a listed owner compares the offered key with the listed one. -/
theorem verify_listed {owner target line : String} (hmemory : MemoryStore.ofUsers users = .ok memory)
    (hline : users.get? owner = some line) (ho : Identity.IsSegment owner)
    (ht : Identity.IsSegment target) :
    ∃ key, AuthorizedKey.parse line = .ok key ∧ ∀ offered,
      verify memory.toStore (Identity.joined owner target) offered =
        match AuthorizedKey.parse offered with
        | .error fault => .error (.keyParse fault)
        | .ok k        => .ok (decide (k.blob = key.blob)) := by
  obtain ⟨key, hkey, hlookup⟩ := MemoryStore.lookup_of_listed hmemory hline
  have hrecord : memory.toStore.lookup owner = .ok ⟨owner, key.blob⟩ := hlookup
  have hdecode := Identity.decode_joined ho ht
  refine ⟨key, hkey, ?_⟩
  intro offered
  cases hoffered : AuthorizedKey.parse offered with
  | error fault => exact verify_of_line_error hdecode hrecord hoffered
  | ok k => exact verify_of_line hdecode hrecord hoffered

/-- An owner who is not listed is not found. -/
theorem verify_unlisted {username : String} {identity : Identity} (line : String)
    (hmemory : MemoryStore.ofUsers users = .ok memory)
    (hdecode : Identity.decode username = .ok identity)
    (hnone : users.get? identity.owner = none) :
    verify memory.toStore username line = .error (.userNotFound identity.owner) := by
  have hlookup : memory.toStore.lookup identity.owner = .error (.notFound identity.owner) :=
    MemoryStore.lookup_of_unlisted hmemory hnone
  exact verify_of_lookup_error line hdecode hlookup

/-- A verdict is reached for listed owners only. -/
theorem owner_listed_of_verdict {username line : String} {success : Bool}
    (hmemory : MemoryStore.ofUsers users = .ok memory)
    (hverdict : verify memory.toStore username line = .ok success) :
    ∃ identity registered, Identity.decode username = .ok identity ∧
      users.get? identity.owner = some registered := by
  obtain ⟨identity, record, offered, hdecode, hlookup, -, -⟩ := verify_eq_ok_iff.1 hverdict
  cases hget : users.get? identity.owner with
  | some registered => exact ⟨identity, registered, hdecode, hget⟩
  | none =>
    rw [verify_unlisted line hmemory hdecode hget] at hverdict
    cases hverdict

end listed

/-- From a valid configuration that lists its users a store is built, and over this store
    * every listed owner has a username for every target, under which a line without a key is
      refused as such and every other line is compared with the listed one by its blob, so
      that the listed line itself is accepted;
    * no verdict is reached under a username that does not name a listed owner;
    * a username that names another owner is answered that there is no such user. -/
theorem Config.authenticates_listed {c : Config} (hstatic : c.store.backend = .static)
    (hvalid : c.validate = .ok ()) (environment : Environment) (connect : Connect) :
    ∃ built, c.store.build environment connect = .ok built ∧
      (∀ owner line, c.store.users.get? owner = some line →
        ∃ key, AuthorizedKey.parse line = .ok key ∧
          ∀ target, target ≠ "" → delimiter ∉ target.toList →
            ∃ username, Identity.encode owner target = .ok username ∧
              (∀ offered fault, AuthorizedKey.parse offered = .error fault →
                verify built.store username offered = .error (.keyParse fault)) ∧
              (∀ offered k, AuthorizedKey.parse offered = .ok k →
                verify built.store username offered = .ok (decide (k.blob = key.blob))) ∧
              verify built.store username line = .ok true) ∧
      (∀ username line success, verify built.store username line = .ok success →
        ∃ identity registered, Identity.decode username = .ok identity ∧
          c.store.users.get? identity.owner = some registered) ∧
      (∀ username line identity, Identity.decode username = .ok identity →
        c.store.users.get? identity.owner = none →
          verify built.store username line = .error (.userNotFound identity.owner)) := by
  have hchecked := checkUsers_eq_ok_iff.1 (checkUsers_of_validate hstatic hvalid)
  obtain ⟨memory, hmemory, hbuilt⟩ := build_of_validate hstatic hvalid environment connect
  refine ⟨_, hbuilt, ?_, ?_, ?_⟩
  · -- A listed owner: the validation made sure that usernames reach it.
    intro owner line hline
    have ho : Identity.IsSegment owner := (hchecked _ (Directory.get?_eq_some_iff.1 hline)).1
    obtain ⟨key, hkey, -⟩ := MemoryStore.lookup_of_listed hmemory hline
    refine ⟨key, hkey, ?_⟩
    intro target htarget hdelimiter
    have ht : Identity.IsSegment target := ⟨htarget, hdelimiter⟩
    obtain ⟨key', hkey', hverify⟩ := verify_listed hmemory hline ho ht
    obtain rfl : key' = key := Except.ok.inj (hkey'.symm.trans hkey)
    refine ⟨_, Identity.encode_eq_ok_iff.2 ⟨ho, ht, rfl⟩, ?_, ?_, ?_⟩
    · intro offered fault hoffered
      rw [hverify, hoffered]
    · intro offered k hoffered
      rw [hverify, hoffered]
    · rw [hverify, hkey]
      simp
  · intro username line success hverdict
    exact owner_listed_of_verdict hmemory hverdict
  · intro username line identity hdecode hnone
    exact verify_unlisted line hmemory hdecode hnone

/-- Alice is listed with options and a comment.  She is let in with the bare key, and Carol is
    not found. -/
theorem Config.authenticates_listed_alice :
    let bare := "ssh-rsa AAAADHJzYS1zaGEyLTUxMgAAAAMBAAEAAAADAP8B"
    let users := Directory.ofList [("alice", "no-pty " ++ bare ++ " alice@laptop")]
    let c : Config := ⟨.defaults, .defaults, ⟨.static, none, users⟩⟩
    c.store.backend = .static ∧ c.validate = .ok () ∧
      ∃ built, c.store.build (fun _ => none) (fun _ => .error .poolTimedOut) = .ok built ∧
        verify built.store "alice#gpu-box-1" bare = .ok true ∧
        verify built.store "carol#gpu-box-1" bare = .error (.userNotFound "carol") := by
  intro bare users c
  have hvalid : c.validate = .ok () := ok_of_toOption (by decide +kernel)
  obtain ⟨built, hbuilt, hlisted, -, hunlisted⟩ :=
    authenticates_listed (c := c) rfl hvalid (fun _ => none) (fun _ => .error .poolTimedOut)
  refine ⟨rfl, hvalid, built, hbuilt, ?_, ?_⟩
  · obtain ⟨key, hkey, hreach⟩ := hlisted "alice" ("no-pty " ++ bare ++ " alice@laptop") rfl
    obtain ⟨username, husername, -, hcompare, -⟩ := hreach "gpu-box-1" (by decide) (by decide)
    obtain rfl : "alice#gpu-box-1" = username := Except.ok.inj husername
    let k : AuthorizedKey := ⟨"ssh-rsa", [0, 0, 0, 7, 0x73, 0x73, 0x68, 0x2d, 0x72, 0x73, 0x61,
      0, 0, 0, 3, 1, 0, 1, 0, 0, 0, 3, 0, 255, 1], none⟩
    have hbare : AuthorizedKey.parse bare = .ok k := ok_of_toOption (by decide +kernel)
    have hline : AuthorizedKey.parse ("no-pty " ++ bare ++ " alice@laptop") =
        .ok { k with comment := some "alice@laptop" } := ok_of_toOption (by decide +kernel)
    obtain rfl : _ = key := Except.ok.inj (hline.symm.trans hkey)
    exact hcompare bare k hbare
  · exact hunlisted _ _ ⟨"carol", "gpu-box-1"⟩ rfl rfl

end Gatehouse
