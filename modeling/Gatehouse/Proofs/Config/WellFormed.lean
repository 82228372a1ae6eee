import Gatehouse.Config.Load
import Gatehouse.Proofs.Config.Validity
import Gatehouse.Proofs.First
import Gatehouse.Proofs.Identity.Inverse
import Gatehouse.Proofs.Key.Rendering
import Gatehouse.Proofs.Store.ListedUsers

/-! # Well-formed configurations

    `Config.IsWellFormed` says what a configuration has to be, section by section, and
    `Config.HasFault` what is reported of one that is not: the first fault, where the listen
    address comes before the fingerprints and these before the store.

    Listed users have no order of their own, and the validation may take them in any.  For
    whichever order it takes (`Config.validateAlong`), it admits the well-formed
    configurations and reports the fault of any other one (`Config.validateAlong_decides`).

    An owner is admitted if some username names it.  The validation tries one target for
    this, which is as good as all of them (`Identity.isReachable_iff`). -/

namespace Gatehouse

/-! ## Owners that can be reached -/

namespace Identity

/-- Is there a username with this owner? -/
def IsReachable (owner : String) : Prop :=
  ∃ username identity, decode username = .ok identity ∧ identity.owner = owner

theorem isReachable_iff {owner : String} : IsReachable owner ↔ IsSegment owner := by
  constructor
  · rintro ⟨username, identity, hdecode, rfl⟩
    have hvalid : identity.IsValid := (decode_eq_ok_iff.1 hdecode).1
    exact hvalid.1
  · intro howner
    have hx : IsSegment "x" := ⟨by decide, by decide⟩
    exact ⟨_, _, decode_joined howner hx, rfl⟩

/-- A trial with one target tells whether an owner can be reached. -/
theorem exists_encode_iff {owner : String} :
    (∃ username, encode owner "x" = .ok username) ↔ IsReachable owner := by
  have hx : IsSegment "x" := ⟨by decide, by decide⟩
  rw [isReachable_iff]
  constructor
  · rintro ⟨username, h⟩
    exact (encode_eq_ok_iff.1 h).1
  · intro howner
    exact ⟨_, encode_eq_ok_iff.2 ⟨howner, hx, rfl⟩⟩

end Identity

/-! ## Listed users -/

/-- May a user be listed so: reachable, and with a line that holds a key? -/
def IsListable (user : String × String) : Prop :=
  Identity.IsReachable user.1 ∧ ∃ key, AuthorizedKey.parse user.2 = .ok key

/-- What is wrong with a user that may not be listed so; the name counts before the key. -/
inductive UserFault : String × String → InvalidConfig → Prop where
  | name {owner line : String} (h : ¬ Identity.IsReachable owner) :
      UserFault (owner, line) (.userName owner)
  | key {owner line : String} {fault : Key.LineFault} (howner : Identity.IsReachable owner)
      (h : AuthorizedKey.parse line = .error fault) :
      UserFault (owner, line) (.userKey owner fault)

theorem checkUsers_eq_ok_iff_listable {users : List (String × String)} :
    checkUsers users = .ok () ↔ ∀ user ∈ users, IsListable user := by
  rw [checkUsers_eq_ok_iff]
  simp only [IsListable, Identity.isReachable_iff]

section fault
variable {owner line : String} {e : InvalidConfig}

theorem userFault_iff_of_unreachable (howner : ¬ Identity.IsReachable owner) :
    UserFault (owner, line) e ↔ e = .userName owner := by
  constructor
  · intro h
    cases h with
    | name _ => rfl
    | key hreachable _ => exact absurd hreachable howner
  · rintro rfl
    exact .name howner

theorem userFault_iff_of_line {fault : Key.LineFault} (howner : Identity.IsReachable owner)
    (hline : AuthorizedKey.parse line = .error fault) :
    UserFault (owner, line) e ↔ e = .userKey owner fault := by
  constructor
  · intro h
    cases h with
    | name hunreachable => exact absurd howner hunreachable
    | key _ h => rw [Except.error.inj (hline.symm.trans h)]
  · rintro rfl
    exact .key howner hline

end fault

/-- The first user that may not be listed so is reported. -/
theorem checkUsers_eq_error_iff {users : List (String × String)} {e : InvalidConfig} :
    checkUsers users = .error e ↔
      ∃ user, IsFirst (¬ IsListable ·) users user ∧ UserFault user e := by
  induction users with
  | nil => simp [checkUsers]
  | cons user users ih =>
    obtain ⟨owner, line⟩ := user
    -- The name is checked first: the line counts only if some username names the owner.
    by_cases howner : Identity.IsReachable owner
    · obtain ⟨username, hname⟩ := Identity.exists_encode_iff.2 howner
      cases hline : AuthorizedKey.parse line with
      | ok key =>
        have hgood : ¬ ¬ IsListable (owner, line) := not_not.2 ⟨howner, key, hline⟩
        simp only [checkUsers, hname, hline, isFirst_cons_of_neg (p := (¬ IsListable ·)) hgood, ih]
      | error fault =>
        have hbad : ¬ IsListable (owner, line) := by
          rintro ⟨-, key, hkey⟩
          rw [hline] at hkey
          cases hkey
        simp only [checkUsers, hname, hline, isFirst_cons_of_pos (p := (¬ IsListable ·)) hbad,
          exists_eq_left, Except.error.injEq, userFault_iff_of_line howner hline]
        exact eq_comm
    · have hbad : ¬ IsListable (owner, line) := fun h => howner h.1
      cases hname : Identity.encode owner "x" with
      | ok username => exact absurd (Identity.exists_encode_iff.1 ⟨username, hname⟩) howner
      | error fault =>
        simp only [checkUsers, hname, isFirst_cons_of_pos (p := (¬ IsListable ·)) hbad,
          exists_eq_left, Except.error.injEq, userFault_iff_of_unreachable howner]
        exact eq_comm

/-! ## Written fingerprints -/

/-- Does a text begin like a fingerprint and go on? -/
def LooksLikeFingerprint (text : String) : Prop := ∃ rest, rest ≠ "" ∧ text = "SHA256:" ++ rest

theorem checkFingerprints_eq_ok_iff_looks {fs : List String} :
    checkFingerprints fs = .ok () ↔ ∀ f ∈ fs, LooksLikeFingerprint f := by
  rw [checkFingerprints_eq_ok_iff]
  simp only [Fingerprint.isPlausible_iff]
  rfl

/-- The first text that does not look like a fingerprint is reported. -/
theorem checkFingerprints_eq_error_iff {fs : List String} {e : InvalidConfig} :
    checkFingerprints fs = .error e ↔
      ∃ f, IsFirst (¬ LooksLikeFingerprint ·) fs f ∧ e = .fingerprint f := by
  induction fs with
  | nil => simp [checkFingerprints]
  | cons f fs ih =>
    by_cases hf : LooksLikeFingerprint f
    · have hplausible : Fingerprint.isPlausible f = true := Fingerprint.isPlausible_iff.2 hf
      rw [checkFingerprints, if_pos hplausible, ih]
      simp only [isFirst_cons_of_neg (p := (¬ LooksLikeFingerprint ·)) (not_not.2 hf)]
    · have hplausible : ¬ Fingerprint.isPlausible f = true := fun h =>
        hf (Fingerprint.isPlausible_iff.1 h)
      rw [checkFingerprints, if_neg hplausible]
      simp only [isFirst_cons_of_pos (p := (¬ LooksLikeFingerprint ·)) hf, exists_eq_left,
        Except.error.injEq]
      exact eq_comm

/-! ## The store -/

theorem DatabaseSection.one_le_maxConnections_iff {d : DatabaseSection} :
    1 ≤ d.maxConnections ↔ d.maxConnections ≠ 0 := by
  rw [UInt32.le_iff_toNat_le, ne_eq, ← UInt32.toNat_inj]
  exact Nat.one_le_iff_ne_zero

namespace StoreSection

/-- The validation with the users taken in a given order. -/
def validateAlong (s : StoreSection) (users : List (String × String)) :
    Except InvalidConfig Unit :=
  match s.backend with
  | .postgres => s.validate
  | .static   => checkUsers users

/-- Has the chosen backend what it needs?  What the other one would need does not count. -/
inductive IsWellFormed (s : StoreSection) : Prop where
  | postgres {d : DatabaseSection} (hbackend : s.backend = .postgres)
      (hdatabase : s.database = some d) (hconnections : 1 ≤ d.maxConnections)
  | static (hbackend : s.backend = .static)
      (husers : ∀ owner line, s.users.get? owner = some line → IsListable (owner, line))

/-- What is reported of a section whose backend lacks something. -/
inductive HasFault (s : StoreSection) (users : List (String × String)) : InvalidConfig → Prop where
  | databaseMissing (hbackend : s.backend = .postgres) (h : s.database = none) :
      HasFault s users .databaseMissing
  | noConnections {d : DatabaseSection} (hbackend : s.backend = .postgres)
      (hdatabase : s.database = some d) (h : d.maxConnections = 0) :
      HasFault s users .noConnections
  | user {user : String × String} {e : InvalidConfig} (hbackend : s.backend = .static)
      (hfirst : IsFirst (¬ IsListable ·) users user) (h : UserFault user e) :
      HasFault s users e

section
variable {s : StoreSection} {users : List (String × String)}

theorem validateAlong_eq_ok_iff (horder : users.Perm s.users.entries) :
    s.validateAlong users = .ok () ↔ s.IsWellFormed := by
  unfold validateAlong
  cases hbackend : s.backend with
  | postgres =>
    simp only
    constructor
    · intro h
      obtain ⟨d, hd, hne⟩ := database_of_validate hbackend h
      exact .postgres hbackend hd (DatabaseSection.one_le_maxConnections_iff.2 hne)
    · intro h
      cases h with
      | @postgres d _ hd hconnections =>
        unfold validate
        simp only [hbackend, hd, if_neg (DatabaseSection.one_le_maxConnections_iff.1 hconnections)]
      | static hstatic _ => cases hbackend.symm.trans hstatic
  | static =>
    simp only
    rw [checkUsers_eq_ok_iff_listable]
    -- The entries are the same in every order.
    constructor
    · intro h
      refine .static hbackend ?_
      intro owner line hline
      exact h _ (horder.mem_iff.2 (Directory.get?_eq_some_iff.1 hline))
    · intro h
      cases h with
      | postgres hpostgres _ _ => cases hbackend.symm.trans hpostgres
      | static _ husers =>
        intro user huser
        exact husers _ _ (Directory.get?_eq_some_iff.2 (horder.mem_iff.1 huser))

theorem validateAlong_eq_error_iff {e : InvalidConfig} :
    s.validateAlong users = .error e ↔ s.HasFault users e := by
  unfold validateAlong
  constructor
  · intro h
    cases hbackend : s.backend with
    | postgres =>
      unfold validate at h
      simp only [hbackend] at h
      cases hdatabase : s.database with
      | none =>
        simp only [hdatabase] at h
        obtain rfl := Except.error.inj h
        exact .databaseMissing hbackend hdatabase
      | some d =>
        simp only [hdatabase] at h
        split at h
        · rename_i hnone
          obtain rfl := Except.error.inj h
          exact .noConnections hbackend hdatabase hnone
        · cases h
    | static =>
      simp only [hbackend] at h
      obtain ⟨user, hfirst, hfault⟩ := checkUsers_eq_error_iff.1 h
      exact .user hbackend hfirst hfault
  · intro h
    cases h with
    | databaseMissing hbackend hnone =>
      unfold validate
      simp only [hbackend, hnone]
    | noConnections hbackend hdatabase hnone =>
      unfold validate
      simp only [hbackend, hdatabase, hnone, if_true]
    | user hbackend hfirst hfault =>
      simp only [hbackend]
      exact checkUsers_eq_error_iff.2 ⟨_, hfirst, hfault⟩

end

end StoreSection

/-! ## The whole configuration -/

namespace Config

/-- The validation with the users taken in a given order. -/
def validateAlong (c : Config) (users : List (String × String)) : Except InvalidConfig Unit :=
  match Net.SocketAddress.parse c.server.listen with
  | none   => .error (.listen c.server.listen)
  | some _ =>
    match checkFingerprints c.routing.trustedFingerprints with
    | .error e => .error e
    | .ok _    => c.store.validateAlong users

/-- The program takes the users as they stand in their directory. -/
theorem validateAlong_entries (c : Config) : c.validateAlong c.store.users.entries = c.validate := by
  have hstore : c.store.validateAlong c.store.users.entries = c.store.validate := by
    unfold StoreSection.validateAlong StoreSection.validate
    cases c.store.backend <;> rfl
  unfold validateAlong validate
  cases Net.SocketAddress.parse c.server.listen with
  | none => rfl
  | some address =>
    cases checkFingerprints c.routing.trustedFingerprints with
    | error e => rfl
    | ok u => exact hstore

/-- Does a configuration make sense in each of its sections? -/
structure IsWellFormed (c : Config) : Prop where
  listen       : ∃ address, Net.SocketAddress.parse c.server.listen = some address
  fingerprints : ∀ f ∈ c.routing.trustedFingerprints, LooksLikeFingerprint f
  store        : c.store.IsWellFormed

/-- What is reported of a configuration that does not: the fault of the first section that has
    one. -/
inductive HasFault (c : Config) (users : List (String × String)) : InvalidConfig → Prop where
  | listen (h : Net.SocketAddress.parse c.server.listen = none) :
      HasFault c users (.listen c.server.listen)
  | fingerprint {address : Net.SocketAddress} {f : String}
      (hlisten : Net.SocketAddress.parse c.server.listen = some address)
      (h : IsFirst (¬ LooksLikeFingerprint ·) c.routing.trustedFingerprints f) :
      HasFault c users (.fingerprint f)
  | store {address : Net.SocketAddress} {e : InvalidConfig}
      (hlisten : Net.SocketAddress.parse c.server.listen = some address)
      (hfingerprints : ∀ f ∈ c.routing.trustedFingerprints, LooksLikeFingerprint f)
      (h : c.store.HasFault users e) : HasFault c users e

section
variable {c : Config} {users : List (String × String)}

theorem validateAlong_eq_ok_iff (horder : users.Perm c.store.users.entries) :
    c.validateAlong users = .ok () ↔ c.IsWellFormed := by
  unfold validateAlong
  cases hlisten : Net.SocketAddress.parse c.server.listen with
  | none =>
    constructor
    · intro h
      cases h
    · rintro ⟨⟨address, haddress⟩, -, -⟩
      cases hlisten.symm.trans haddress
  | some address =>
    cases hcheck : checkFingerprints c.routing.trustedFingerprints with
    | error e =>
      constructor
      · intro h
        cases h
      · rintro ⟨-, hfingerprints, -⟩
        cases hcheck.symm.trans (checkFingerprints_eq_ok_iff_looks.2 hfingerprints)
    | ok u =>
      simp only
      rw [StoreSection.validateAlong_eq_ok_iff horder]
      constructor
      · intro hstore
        exact ⟨⟨address, hlisten⟩, checkFingerprints_eq_ok_iff_looks.1 hcheck, hstore⟩
      · exact fun h => h.store

theorem validateAlong_eq_error_iff {e : InvalidConfig} :
    c.validateAlong users = .error e ↔ c.HasFault users e := by
  unfold validateAlong
  constructor
  · intro h
    cases hlisten : Net.SocketAddress.parse c.server.listen with
    | none =>
      simp only [hlisten] at h
      obtain rfl := Except.error.inj h
      exact .listen hlisten
    | some address =>
      simp only [hlisten] at h
      cases hcheck : checkFingerprints c.routing.trustedFingerprints with
      | error fault =>
        simp only [hcheck] at h
        obtain rfl := Except.error.inj h
        obtain ⟨f, hfirst, rfl⟩ := checkFingerprints_eq_error_iff.1 hcheck
        exact .fingerprint hlisten hfirst
      | ok u =>
        simp only [hcheck] at h
        exact .store hlisten (checkFingerprints_eq_ok_iff_looks.1 hcheck)
          (StoreSection.validateAlong_eq_error_iff.1 h)
  · intro h
    cases h with
    | listen hnone => simp only [hnone]
    | fingerprint hlisten hfirst =>
      simp only [hlisten, checkFingerprints_eq_error_iff.2 ⟨_, hfirst, rfl⟩]
    | store hlisten hfingerprints hstore =>
      simp only [hlisten, checkFingerprints_eq_ok_iff_looks.2 hfingerprints]
      exact StoreSection.validateAlong_eq_error_iff.2 hstore

end

/-- A file gives the configuration that is written in it, if this is valid. -/
theorem load_eq_ok_iff {path : String} {file : File} {c : Config} :
    load path file = .ok c ↔
      ∃ text, file.text = .ok text ∧ ofYaml text = .ok c ∧ c.validate = .ok () := by
  unfold load
  cases file.text with
  | error fault => simp
  | ok text =>
    cases hyaml : ofYaml text with
    | error e => simp [hyaml]
    | ok read =>
      cases hvalid : read.validate with
      | error e =>
        simp only [hyaml, hvalid]
        constructor
        · intro h
          cases h
        · rintro ⟨_, htext, hread, hc⟩
          obtain rfl := Except.ok.inj htext
          obtain rfl := Except.ok.inj (hyaml.symm.trans hread)
          cases hvalid.symm.trans hc
      | ok u =>
        simp only [hyaml, hvalid, Except.ok.injEq]
        constructor
        · rintro rfl
          exact ⟨text, rfl, hyaml, hvalid⟩
        · rintro ⟨_, rfl, hread, -⟩
          exact Except.ok.inj (hyaml.symm.trans hread)

/-- The validation admits the well-formed configurations, in whatever order it takes their users.
    * A configuration is valid exactly if its listen address is one, each written fingerprint is
      `SHA256:` with something behind it, and the chosen backend has what it needs: a described
      database with at least one connection, or listed users that some username names and whose
      lines hold keys.  What is there for the backend that is not chosen does not count.
    * Of any other one the first fault is reported: the listen address before everything else,
      then the first text that is no fingerprint, and only then a fault of the store.
    * The order in which the program takes the users is one of these.
    * What a file gives is the configuration that is written in it, unchanged, if it is valid. -/
theorem validateAlong_decides {c : Config} {users : List (String × String)}
    (horder : users.Perm c.store.users.entries) :
    (c.validateAlong users = .ok () ↔
      (∃ address, Net.SocketAddress.parse c.server.listen = some address) ∧
      (∀ f ∈ c.routing.trustedFingerprints, ∃ rest, rest ≠ "" ∧ f = "SHA256:" ++ rest) ∧
      (c.store.backend = .postgres ∧ (∃ d, c.store.database = some d ∧ 1 ≤ d.maxConnections) ∨
        c.store.backend = .static ∧ ∀ owner line, c.store.users.get? owner = some line →
          (∃ username identity, Identity.decode username = .ok identity ∧
            identity.owner = owner) ∧ ∃ key, AuthorizedKey.parse line = .ok key)) ∧
    (∀ e, c.validateAlong users = .error e ↔ c.HasFault users e) ∧
    c.validate = c.validateAlong c.store.users.entries ∧
    ∀ path file, load path file = .ok c ↔
      ∃ text, file.text = .ok text ∧ ofYaml text = .ok c ∧ c.validateAlong users = .ok () := by
  refine ⟨?_, fun e => validateAlong_eq_error_iff, c.validateAlong_entries.symm, ?_⟩
  · rw [validateAlong_eq_ok_iff horder]
    -- The statement writes out what it is to be well-formed.
    constructor
    · rintro ⟨hlisten, hfingerprints, hstore⟩
      refine ⟨hlisten, hfingerprints, ?_⟩
      cases hstore with
      | postgres hbackend hdatabase hconnections =>
        exact .inl ⟨hbackend, _, hdatabase, hconnections⟩
      | static hbackend husers => exact .inr ⟨hbackend, husers⟩
    · rintro ⟨hlisten, hfingerprints, ⟨hbackend, d, hdatabase, hconnections⟩ | ⟨hbackend, husers⟩⟩
      · exact ⟨hlisten, hfingerprints, .postgres hbackend hdatabase hconnections⟩
      · exact ⟨hlisten, hfingerprints, .static hbackend husers⟩
  · intro path file
    -- Being well-formed does not mention an order, so any two orders admit the same.
    have hsame : c.validateAlong users = .ok () ↔ c.validate = .ok () := by
      rw [← validateAlong_entries, validateAlong_eq_ok_iff horder,
        validateAlong_eq_ok_iff (List.Perm.refl _)]
    rw [load_eq_ok_iff]
    simp only [hsame]

/-- Two of three users may not be listed so.  Taken in this order, the validation ends at Carol,
    who has a comment for a key; that no username names the last one is not said. -/
theorem validateAlong_decides_carol :
    let key := "ssh-rsa AAAADHJzYS1zaGEyLTUxMgAAAAMBAAEAAAADAP8B"
    let users := Directory.ofList [("alice", key), ("a#b", key), ("carol", "# none")]
    let c : Config := ⟨.defaults, ⟨["SHA256:inline"], []⟩, ⟨.static, none, users⟩⟩
    let order := [("alice", key), ("carol", "# none"), ("a#b", key)]
    order.Perm c.store.users.entries ∧ c.validateAlong order ≠ .ok () ∧
      c.validateAlong order = .error (.userKey "carol" .missingKey) := by
  intro key users c order
  have horder : order.Perm c.store.users.entries := by decide +kernel
  obtain ⟨hvalid, hfaults, -, -⟩ := validateAlong_decides horder
  have hcarol : AuthorizedKey.parse "# none" = .error .missingKey :=
    AuthorizedKey.parse_of_comment (by decide)
  have halice : IsListable ("alice", key) := by
    refine ⟨⟨"alice#x", ⟨"alice", "x"⟩, rfl, rfl⟩, ⟨"ssh-rsa", [0, 0, 0, 7, 0x73, 0x73, 0x68, 0x2d,
      0x72, 0x73, 0x61, 0, 0, 0, 3, 1, 0, 1, 0, 0, 0, 3, 0, 255, 1], none⟩, ?_⟩
    exact ok_of_toOption (by decide +kernel)
  refine ⟨horder, ?_, ?_⟩
  · intro hok
    obtain ⟨-, -, ⟨hbackend, -⟩ | ⟨-, husers⟩⟩ := hvalid.1 hok
    · cases hbackend
    · obtain ⟨-, key, hkey⟩ := husers "carol" "# none" (by decide +kernel)
      rw [hcarol] at hkey
      cases hkey
  · have hlisten : Net.SocketAddress.parse "0.0.0.0:8080" = some (.v4 ⟨0, 0, 0, 0⟩ 8080) := by
      decide +kernel
    refine (hfaults _).2 (.store hlisten ?_ ?_)
    · intro f hf
      obtain rfl := List.mem_singleton.1 hf
      exact ⟨"inline", by decide, rfl⟩
    · refine .user rfl ⟨[("alice", key)], [("a#b", key)], rfl, ?_, ?_⟩ (.key ?_ hcarol)
      · intro user huser
        obtain rfl := List.mem_singleton.1 huser
        exact not_not.2 halice
      · rintro ⟨-, key, hkey⟩
        rw [hcarol] at hkey
        cases hkey
      · exact ⟨"carol#x", ⟨"carol", "x"⟩, rfl, rfl⟩

end Config

end Gatehouse
