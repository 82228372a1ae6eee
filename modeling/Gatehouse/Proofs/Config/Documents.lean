import Gatehouse.Config.Json
import Gatehouse.Config.Validity
import Gatehouse.Proofs.Directory
import Gatehouse.Proofs.Result

/-! # Documents of a configuration

    A configuration can be written in many ways.  Of each field a section has one member, or
    none if the value is the default; the members stand in any order, and members of other names
    may stand among them (`Config.IsWrittenAs`).  In the user map every member is a user, so
    there only the order is free.

    Defaults are given for fields, and again for whole sections, and all of these agree: however
    a configuration is written, it is read as itself (`Config.ofJson_of_isWrittenAs`), section by
    section and field by field. -/

namespace Gatehouse

/-! ## Configurations written out -/

/-- A list of texts. -/
def Json.texts (xs : List String) : Json := .array (xs.map .string)

def ServerSection.toJson (s : ServerSection) : Json := .object [("listen", .string s.listen)]

def RoutingSection.toJson (r : RoutingSection) : Json :=
  .object [("trusted_fingerprints", .texts r.trustedFingerprints),
    ("host_key_files", .texts r.hostKeyFiles)]

def DatabaseSection.toJson (d : DatabaseSection) : Json :=
  .object [("url_env", .string d.urlVariable), ("max_connections", .integer d.maxConnections.toNat),
    ("acquire_timeout", .integer d.acquireTimeout.toNat)]

def Directory.toJson (users : Directory String) : Json :=
  .object (users.entries.map fun user => (user.1, .string user.2))

def StoreSection.toJson (s : StoreSection) : Json :=
  .object [("backend", .string s.backend.name),
    ("postgres", s.database.elim .null DatabaseSection.toJson), ("users", s.users.toJson)]

/-- The configuration with every field written out, those with default values too. -/
def Config.toJson (c : Config) : Json :=
  .object [("server", c.server.toJson), ("routing", c.routing.toJson), ("store", c.store.toJson)]

/-- The document that says the same with its defaults filled in. -/
def Config.fillIn (j : Json) : Except ShapeError Json := (Config.ofJson j).map Config.toJson

/-! ## Members of an object -/

/-- Among the members one has the name, and it means the value; or none has, if the value may be
    left out. -/
inductive HasField (ms : List (String × Json)) (name : String) (Means : Json → Prop)
    (omissible : Prop) : Prop where
  | given (j : Json) : Means j → (ms.filter fun m => m.1 = name) = [(name, j)] →
      HasField ms name Means omissible
  | omitted : omissible → (∀ m ∈ ms, m.1 ≠ name) → HasField ms name Means omissible

namespace Json

/-- The last member of a name is the last of those that have it. -/
theorem lastMember_eq (name : String) (ms : List (String × Json)) :
    lastMember name ms = (ms.filter fun m => m.1 = name).getLast?.map (·.2) := by
  have hlookup : ∀ l : List (String × Json),
      l.lookup name = (l.filter fun m => m.1 = name).head?.map (·.2) := by
    intro l
    induction l with
    | nil => rfl
    | cons m l ih =>
      rw [Directory.lookup_cons_ite]
      by_cases hm : m.1 = name
      · rw [if_pos hm.symm, List.filter_cons_of_pos (by simpa using hm)]
        rfl
      · rw [if_neg (Ne.symm hm), List.filter_cons_of_neg (by simpa using hm), ih]
  unfold lastMember
  rw [hlookup, List.filter_reverse, List.head?_reverse]

theorem lastMember_of_filter {ms : List (String × Json)} {name : String} {j : Json}
    (h : (ms.filter fun m => m.1 = name) = [(name, j)]) : lastMember name ms = some j := by
  rw [lastMember_eq, h]
  rfl

theorem lastMember_of_forall_ne {ms : List (String × Json)} {name : String}
    (h : ∀ m ∈ ms, m.1 ≠ name) : lastMember name ms = none := by
  have hnone : (ms.filter fun m => m.1 = name) = [] := by
    rw [List.filter_eq_nil_iff]
    intro m hm
    simpa using h m hm
  rw [lastMember_eq, hnone]
  rfl

end Json

namespace Config.OfJson

theorem texts_texts (xs : List String) : texts (.texts xs) = .ok xs := by
  show (xs.map Json.string).mapM text = _
  induction xs with
  | nil => rfl
  | cons x xs ih =>
    rw [List.map_cons, List.mapM_cons, ih]
    rfl

theorem natural_integer {expected : String} {bound n : Nat} (h : n ≤ bound) :
    natural expected bound (.integer n) = .ok n := by
  unfold natural
  dsimp only
  rw [if_pos ⟨Int.natCast_nonneg n, by rw [Int.toNat_natCast]; exact h⟩, Int.toNat_natCast]

theorem word32_integer (n : UInt32) : word32 (.integer n.toNat) = .ok n := by
  have hbound : n.toNat ≤ UInt32.size - 1 := by
    have := n.toNat_lt
    unfold UInt32.size
    omega
  unfold word32
  rw [natural_integer hbound]
  exact congrArg Except.ok (UInt32.ofNat_toNat)

theorem word64_integer (n : UInt64) : word64 (.integer n.toNat) = .ok n := by
  have hbound : n.toNat ≤ UInt64.size - 1 := by
    have := n.toNat_lt
    unfold UInt64.size
    omega
  unfold word64
  rw [natural_integer hbound]
  exact congrArg Except.ok (UInt64.ofNat_toNat)

theorem backend_name (b : Backend) : backend (.string b.name) = .ok b := by
  cases b <;> rfl

/-- Users are read in whichever order their members stand. -/
theorem directory_of_perm {users : Directory String} {ms : List (String × Json)}
    (h : ms.Perm (users.entries.map fun user => (user.1, Json.string user.2))) :
    directory (.object ms) = .ok users := by
  have hmembers : Json.directory ms = users.map Json.string :=
    Directory.ofList_of_perm (d := users.map Json.string) h
  -- None of the values is refused, so reading them is inserting them, whatever was there before.
  have hfold : ∀ (es : List (String × String)) (d : Directory String),
      (es.map fun user => (user.1, Json.string user.2)).foldlM
        (fun d member => (text member.2).map (Directory.insert d member.1)) d =
      Except.ok (es.foldl (fun d e => d.insert e.1 e.2) d) := by
    intro es
    induction es with
    | nil => exact fun _ => rfl
    | cons e es ih => exact fun d => ih (d.insert e.1 e.2)
  have hall : users.entries.foldl (fun d e => d.insert e.1 e.2) Directory.empty = users :=
    Directory.ofList_of_perm (List.Perm.refl _)
  show (Json.directory ms).entries.foldlM
    (fun d member => (text member.2).map (Directory.insert d member.1)) Directory.empty = _
  rw [hmembers]
  exact (hfold users.entries Directory.empty).trans (congrArg Except.ok hall)

/-! ## Fields and sections -/

section fields
variable {ms : List (String × Json)} {name : String} {Means : Json → Prop} {omissible : Prop}

/-- A field of an object is read as its value, given or left out. -/
theorem field_of_hasField {α : Type} {value default : α} {read : Read α}
    (h : HasField ms name Means omissible) (place : Nat)
    (hgiven : ∀ j, Means j → read j = .ok value) (homitted : omissible → default = value) :
    (Given.members ms).field place name default read = .ok value := by
  unfold Given.field Given.get?
  dsimp only
  cases h with
  | given j hj hms =>
    rw [Json.lastMember_of_filter hms]
    exact hgiven j hj
  | omitted hom hms =>
    rw [Json.lastMember_of_forall_ne hms]
    exact congrArg Except.ok (homitted hom)

end fields

end Config.OfJson

/-! ## Sections as they are written -/

/-- The section is written with its address, which may be left out if it is the default. -/
def ServerSection.IsWrittenAs (s : ServerSection) (j : Json) : Prop :=
  ∃ ms, j = .object ms ∧
    HasField ms "listen" (· = .string s.listen) (s.listen = defaults.listen)

def RoutingSection.IsWrittenAs (r : RoutingSection) (j : Json) : Prop :=
  ∃ ms, j = .object ms ∧
    HasField ms "trusted_fingerprints" (· = .texts r.trustedFingerprints)
      (r.trustedFingerprints = []) ∧
    HasField ms "host_key_files" (· = .texts r.hostKeyFiles) (r.hostKeyFiles = [])

def DatabaseSection.IsWrittenAs (d : DatabaseSection) (j : Json) : Prop :=
  ∃ ms, j = .object ms ∧
    HasField ms "url_env" (· = .string d.urlVariable) (d.urlVariable = defaults.urlVariable) ∧
    HasField ms "max_connections" (· = .integer d.maxConnections.toNat)
      (d.maxConnections = defaults.maxConnections) ∧
    HasField ms "acquire_timeout" (· = .integer d.acquireTimeout.toNat)
      (d.acquireTimeout = defaults.acquireTimeout)

/-- Users are written as members of one object, in any order, and nothing else is. -/
def Directory.IsWrittenAs (users : Directory String) (j : Json) : Prop :=
  ∃ ms, j = .object ms ∧ ms.Perm (users.entries.map fun user => (user.1, .string user.2))

/-- The section of the store.  A database that is not described is left out or `null`. -/
def StoreSection.IsWrittenAs (s : StoreSection) (j : Json) : Prop :=
  ∃ ms, j = .object ms ∧
    HasField ms "backend" (· = .string s.backend.name) (s.backend = .postgres) ∧
    HasField ms "postgres" (fun j => s.database.elim (j = .null) (·.IsWrittenAs j))
      (s.database = none) ∧
    HasField ms "users" s.users.IsWrittenAs (s.users = Directory.empty)

/-- A whole configuration.  The section of the store is always there. -/
def Config.IsWrittenAs (c : Config) (j : Json) : Prop :=
  ∃ ms, j = .object ms ∧
    HasField ms "server" c.server.IsWrittenAs (c.server = .defaults) ∧
    HasField ms "routing" c.routing.IsWrittenAs (c.routing = .defaults) ∧
    HasField ms "store" c.store.IsWrittenAs False

namespace Config.OfJson

theorem server_of_isWrittenAs {s : ServerSection} {j : Json} (h : s.IsWrittenAs j) :
    server j = .ok s := by
  obtain ⟨ms, rfl, hlisten⟩ := h
  have hread : (Given.members ms).field 0 "listen" ServerSection.defaults.listen text =
      .ok s.listen := field_of_hasField hlisten 0 (by rintro _ rfl; rfl) Eq.symm
  show ((Given.members ms).field 0 "listen" ServerSection.defaults.listen text >>= fun listen =>
    Except.ok (ServerSection.mk listen)) = _
  rw [hread]
  rfl

theorem routing_of_isWrittenAs {r : RoutingSection} {j : Json} (h : r.IsWrittenAs j) :
    routing j = .ok r := by
  obtain ⟨ms, rfl, htrusted, hfiles⟩ := h
  have hreadTrusted : (Given.members ms).field 0 "trusted_fingerprints" [] texts =
      .ok r.trustedFingerprints :=
    field_of_hasField htrusted 0 (by rintro _ rfl; exact texts_texts _) Eq.symm
  have hreadFiles : (Given.members ms).field 1 "host_key_files" [] texts = .ok r.hostKeyFiles :=
    field_of_hasField hfiles 1 (by rintro _ rfl; exact texts_texts _) Eq.symm
  show ((Given.members ms).field 1 "host_key_files" [] texts >>= fun files =>
    (Given.members ms).field 0 "trusted_fingerprints" [] texts >>= fun trusted =>
      Except.ok (RoutingSection.mk trusted files)) = _
  rw [hreadFiles, hreadTrusted]
  rfl

theorem database_of_isWrittenAs {d : DatabaseSection} {j : Json} (h : d.IsWrittenAs j) :
    database j = .ok d := by
  obtain ⟨ms, rfl, hurl, hmax, htimeout⟩ := h
  have hreadUrl : (Given.members ms).field 0 "url_env" DatabaseSection.defaults.urlVariable text =
      .ok d.urlVariable := field_of_hasField hurl 0 (by rintro _ rfl; rfl) Eq.symm
  have hreadMax : (Given.members ms).field 1 "max_connections"
      DatabaseSection.defaults.maxConnections word32 = .ok d.maxConnections :=
    field_of_hasField hmax 1 (by rintro _ rfl; exact word32_integer _) Eq.symm
  have hreadTimeout : (Given.members ms).field 2 "acquire_timeout"
      DatabaseSection.defaults.acquireTimeout word64 = .ok d.acquireTimeout :=
    field_of_hasField htimeout 2 (by rintro _ rfl; exact word64_integer _) Eq.symm
  show ((Given.members ms).field 2 "acquire_timeout" DatabaseSection.defaults.acquireTimeout word64
    >>= fun timeout =>
      (Given.members ms).field 1 "max_connections" DatabaseSection.defaults.maxConnections word32
        >>= fun max =>
          (Given.members ms).field 0 "url_env" DatabaseSection.defaults.urlVariable text
            >>= fun url => Except.ok (DatabaseSection.mk url max timeout)) = _
  rw [hreadTimeout, hreadMax, hreadUrl]
  rfl

/-- A described database is never taken for a missing one. -/
theorem optionally_of_isWrittenAs {d : Option DatabaseSection} {j : Json}
    (h : d.elim (j = .null) (·.IsWrittenAs j)) : optionally database j = .ok d := by
  cases d with
  | none =>
    obtain rfl : j = .null := h
    rfl
  | some d =>
    have hread : database j = .ok d := database_of_isWrittenAs h
    obtain ⟨ms, rfl, -⟩ := h
    show (database (.object ms)).map some = _
    rw [hread]
    rfl

theorem store_of_isWrittenAs {s : StoreSection} {j : Json} (h : s.IsWrittenAs j) :
    store j = .ok s := by
  obtain ⟨ms, rfl, hbackend, hdatabase, husers⟩ := h
  have hreadBackend : (Given.members ms).field 0 "backend" StoreSection.defaults.backend backend =
      .ok s.backend :=
    field_of_hasField hbackend 0 (by rintro _ rfl; exact backend_name _) Eq.symm
  have hreadDatabase : (Given.members ms).field 1 "postgres" none (optionally database) =
      .ok s.database :=
    field_of_hasField hdatabase 1 (fun _ hj => optionally_of_isWrittenAs hj) Eq.symm
  have hreadUsers : (Given.members ms).field 2 "users" Directory.empty directory = .ok s.users := by
    refine field_of_hasField husers 2 ?_ Eq.symm
    rintro _ ⟨users, rfl, hperm⟩
    exact directory_of_perm hperm
  unfold store
  simp only [Kind.given, bind, Except.bind, hreadBackend]
  -- Here the reader does not ask for the field with a default, since an array must hold it.
  unfold Given.field at hreadDatabase
  cases hget : (Given.members ms).get? 1 "postgres" with
  | none =>
    rw [hget] at hreadDatabase
    have hnone : none = s.database := Except.ok.inj hreadDatabase
    simp only [hreadUsers]
    rw [hnone]
    rfl
  | some j =>
    rw [hget] at hreadDatabase
    have hsome : optionally database j = .ok s.database := hreadDatabase
    simp only [hsome, hreadUsers]
    rfl

theorem config_of_isWrittenAs {c : Config} {j : Json} (h : c.IsWrittenAs j) :
    config j = .ok c := by
  obtain ⟨ms, rfl, hserver, hrouting, hstore⟩ := h
  have hreadServer : (Given.members ms).field 0 "server" ServerSection.defaults server =
      .ok c.server := field_of_hasField hserver 0 (fun _ hj => server_of_isWrittenAs hj) Eq.symm
  have hreadRouting : (Given.members ms).field 1 "routing" RoutingSection.defaults routing =
      .ok c.routing := field_of_hasField hrouting 1 (fun _ hj => routing_of_isWrittenAs hj) Eq.symm
  obtain ⟨j, hj, hms⟩ | ⟨hno, -⟩ := hstore
  · have hget : (Given.members ms).get? 2 "store" = some j := Json.lastMember_of_filter hms
    unfold config
    simp only [Kind.given, bind, Except.bind, hreadRouting, hreadServer, hget,
      store_of_isWrittenAs hj]
    rfl
  · exact hno.elim

end Config.OfJson

/-! ## What is written out -/

theorem ServerSection.isWrittenAs_toJson (s : ServerSection) : s.IsWrittenAs s.toJson :=
  ⟨_, rfl, .given _ rfl (by simp)⟩

theorem RoutingSection.isWrittenAs_toJson (r : RoutingSection) : r.IsWrittenAs r.toJson :=
  ⟨_, rfl, .given _ rfl (by simp), .given _ rfl (by simp)⟩

theorem DatabaseSection.isWrittenAs_toJson (d : DatabaseSection) : d.IsWrittenAs d.toJson :=
  ⟨_, rfl, .given _ rfl (by simp), .given _ rfl (by simp), .given _ rfl (by simp)⟩

theorem Directory.isWrittenAs_toJson (users : Directory String) : users.IsWrittenAs users.toJson :=
  ⟨_, rfl, .refl _⟩

theorem StoreSection.isWrittenAs_toJson (s : StoreSection) : s.IsWrittenAs s.toJson := by
  have hdatabase : s.database.elim (s.database.elim .null DatabaseSection.toJson = .null)
      (·.IsWrittenAs (s.database.elim .null DatabaseSection.toJson)) := by
    cases s.database with
    | none => exact rfl
    | some d => exact d.isWrittenAs_toJson
  exact ⟨_, rfl, .given _ rfl (by simp), .given _ hdatabase (by simp),
    .given _ s.users.isWrittenAs_toJson (by simp)⟩

theorem Config.isWrittenAs_toJson (c : Config) : c.IsWrittenAs c.toJson :=
  ⟨_, rfl, .given _ c.server.isWrittenAs_toJson (by simp),
    .given _ c.routing.isWrittenAs_toJson (by simp),
    .given _ c.store.isWrittenAs_toJson (by simp)⟩

namespace Config

/-- Filling in the defaults of a document does not change what it is read as. -/
theorem ofJson_of_fillIn {j filled : Json} (h : fillIn j = .ok filled) :
    ofJson filled = ofJson j := by
  obtain ⟨c, hc, rfl⟩ := ok_of_map h
  exact (OfJson.config_of_isWrittenAs c.isWrittenAs_toJson).trans hc.symm

/-- Every configuration can be written out in full; it is read as itself from that document, and
    from every other one that it is written as.  A document whose defaults are filled in stays as
    it is when that is done again, and is judged as it was. -/
theorem ofJson_of_isWrittenAs :
    (∀ c : Config, c.IsWrittenAs c.toJson ∧ ofJson c.toJson = .ok c ∧
      ∀ j, c.IsWrittenAs j → ofJson j = .ok c ∧ fillIn j = .ok c.toJson) ∧
    ∀ j filled, fillIn j = .ok filled → fillIn filled = .ok filled ∧
      (ofJson filled).map validate = (ofJson j).map validate := by
  refine ⟨fun c => ⟨c.isWrittenAs_toJson, ?_, fun j hj => ?_⟩, fun j filled hfilled => ?_⟩
  · exact OfJson.config_of_isWrittenAs c.isWrittenAs_toJson
  · have hread : ofJson j = .ok c := OfJson.config_of_isWrittenAs hj
    refine ⟨hread, ?_⟩
    unfold fillIn
    rw [hread]
    rfl
  · have hsame := ofJson_of_fillIn hfilled
    constructor
    · rw [← hfilled]
      unfold fillIn
      rw [hsame]
    · rw [hsame]

/-- A document with a member of its own in most sections, users in no order, and as little else as
    can be: the listen address, the two lists and two settings of the database are left out in
    three different ways. -/
theorem ofJson_of_isWrittenAs_sparse :
    let line := "ssh-rsa AAAADHJzYS1zaGEyLTUxMgAAAAMBAAEAAAADAP8B"
    let users := Directory.ofList [("alice", line), ("Bob", line)]
    let c : Config := ⟨.defaults, .defaults, ⟨.static, some ⟨"USERS_URL", 10, 5⟩, users⟩⟩
    let j : Json := .object [("zone", .null),
      ("store", .object [
        ("users", .object [("alice", .string line), ("Bob", .string line)]),
        ("postgres", .object [("pool", .array []), ("url_env", .string "USERS_URL")]),
        ("backend", .string "static")]),
      ("routing", .object [("zone", .integer 1), ("zone", .integer 2)])]
    c.IsWrittenAs j ∧ ofJson j = .ok c ∧ fillIn j = .ok c.toJson ∧
      fillIn c.toJson = .ok c.toJson := by
  intro line users c j
  obtain ⟨hconfigs, hfilled⟩ := ofJson_of_isWrittenAs
  have horder : [("alice", line), ("Bob", line)].Perm users.entries := by decide +kernel
  have husers : users.IsWrittenAs (.object [("alice", .string line), ("Bob", .string line)]) :=
    ⟨_, rfl, horder.map fun user : String × String => (user.1, Json.string user.2)⟩
  have hrouting : RoutingSection.defaults.IsWrittenAs
      (.object [("zone", .integer 1), ("zone", .integer 2)]) :=
    ⟨_, rfl, .omitted rfl (by simp), .omitted rfl (by simp)⟩
  have hdatabase : (DatabaseSection.mk "USERS_URL" 10 5).IsWrittenAs
      (.object [("pool", .array []), ("url_env", .string "USERS_URL")]) :=
    ⟨_, rfl, .given _ rfl (by simp), .omitted rfl (by simp), .omitted rfl (by simp)⟩
  have hstore : c.store.IsWrittenAs (.object [
      ("users", .object [("alice", .string line), ("Bob", .string line)]),
      ("postgres", .object [("pool", .array []), ("url_env", .string "USERS_URL")]),
      ("backend", .string "static")]) :=
    ⟨_, rfl, .given _ rfl (by simp [c, Backend.name]), .given _ hdatabase (by simp),
      .given _ husers (by simp)⟩
  have hwritten : c.IsWrittenAs j :=
    ⟨_, rfl, .omitted rfl (by simp), .given _ hrouting (by simp), .given _ hstore (by simp)⟩
  obtain ⟨-, -, hread⟩ := hconfigs c
  obtain ⟨hc, hfull⟩ := hread j hwritten
  obtain ⟨hagain, -⟩ := hfilled j c.toJson hfull
  exact ⟨hwritten, hc, hfull, hagain⟩

end Config

end Gatehouse
