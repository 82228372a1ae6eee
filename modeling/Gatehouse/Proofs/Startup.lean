import Gatehouse.Proofs.Config.Validity
import Gatehouse.Proofs.Config.WellFormed
import Gatehouse.Proofs.Store.ListedUsers
import Gatehouse.Startup

/-! # A start fails only where it may

    A start goes through four stages: the configuration, the host keys, the store and the
    listener.  `Course` says where a start can end and what it has led to by then, and
    `course_start` that it ends in one of these ways.

    Some of the later checks repeat what the validation has checked before: that the listen
    address is one, that there is a database to connect to, that the listed users have keys.
    After a configuration is loaded none of them can fail any more (`run_of_load`). -/

namespace Gatehouse

/-! ## What is known of a loaded configuration -/

/-- A configuration that is loaded is valid. -/
theorem Config.validate_of_load {path : String} {file : File} {c : Config}
    (h : Config.load path file = .ok c) : c.validate = .ok () := by
  obtain ⟨-, -, -, hvalid⟩ := Config.load_eq_ok_iff.1 h
  exact hvalid

/-- Whatever goes wrong with a connection, it was described. -/
theorem DatabaseSection.connect_ne_databaseMissing (d : DatabaseSection) (environment : Environment)
    (connect : Connect) : d.connect environment connect ≠ .error .databaseMissing := by
  unfold DatabaseSection.connect
  split
  · exact fun h => by cases h
  · split
    · exact fun h => by cases h
    · split
      · exact fun h => by cases h
      · split
        · exact fun h => by cases h
        · exact fun h => by cases h

section valid
variable {c : Config}

/-- The users of a valid configuration can be loaded in any order. -/
theorem Config.exists_load_of_perm (hstatic : c.store.backend = .static)
    (hvalid : c.validate = .ok ()) {entries : List (String × String)}
    (horder : entries.Perm c.store.users.entries) :
    ∃ memory, MemoryStore.load Directory.empty entries = .ok memory := by
  have hchecked := checkUsers_eq_ok_iff.1 (checkUsers_of_validate hstatic hvalid)
  apply (MemoryStore.exists_load_iff _ _).2
  intro e he
  exact (hchecked e (horder.mem_iff.1 he)).2

/-- The store of a valid configuration never lacks the description of its database. -/
theorem Config.build_ne_databaseMissing (hpostgres : c.store.backend = .postgres)
    (hvalid : c.validate = .ok ()) (environment : Environment) (connect : Connect) :
    c.store.build environment connect ≠ .error .databaseMissing := by
  obtain ⟨-, -, hstore⟩ := Config.validate_eq_ok_iff.1 hvalid
  obtain ⟨d, hd, -⟩ := StoreSection.database_of_validate hpostgres hstore
  intro h
  unfold StoreSection.build at h
  cases hconnect : d.connect environment connect with
  | error e =>
    simp only [hpostgres, hd, hconnect] at h
    rw [Except.error.inj h] at hconnect
    exact d.connect_ne_databaseMissing environment connect hconnect
  | ok db =>
    simp only [hpostgres, hd, hconnect] at h
    cases h

/-- The listen address of a valid configuration is one. -/
theorem Config.listen_of_validate (hvalid : c.validate = .ok ()) (bind : Bind) :
    (∃ address, listen bind c.server.listen = .ok address) ∨
      ∃ address reason, bind address = .error reason ∧
        listen bind c.server.listen = .error (.refused address reason) := by
  obtain ⟨⟨address, haddress⟩, -, -⟩ := Config.validate_eq_ok_iff.1 hvalid
  unfold listen
  simp only [haddress]
  cases hbind : bind address with
  | error reason => exact .inr ⟨address, reason, hbind, rfl⟩
  | ok u => exact .inl ⟨address, rfl⟩

end valid

/-! ## The course of a start -/

/-- The stages of a start up to a point: the configuration is loaded, the host keys are read, and
    the store is built. -/
structure Passed (s : Surroundings) (path : String) (c : Config) (trusted : FingerprintSet)
    (built : BuiltStore) : Prop where
  load         : Config.load path (s.files path) = .ok c
  fingerprints : c.routing.fingerprints s.files = .ok trusted
  build        : c.store.build s.environment s.connect = .ok built

/-- Where a start can end: the events by then, and what it has led to. -/
inductive Course (s : Surroundings) (path : String) :
    List Event × Except StartFailure Started → Prop where
  | config {e : ConfigError} (h : Config.load path (s.files path) = .error e) :
      Course s path ([], .error (.config e))
  | hostKey {c : Config} {e : Key.FileError} (hload : Config.load path (s.files path) = .ok c)
      (h : c.routing.fingerprints s.files = .error e) :
      Course s path ([.starting], .error (.hostKey e))
  | store {c : Config} {trusted : FingerprintSet} {e : StoreFailure}
      (hload : Config.load path (s.files path) = .ok c)
      (hkeys : c.routing.fingerprints s.files = .ok trusted)
      (h : c.store.build s.environment s.connect = .error e) :
      Course s path (.starting :: fingerprintEvents trusted, .error (.store e))
  | listen {c : Config} {trusted : FingerprintSet} {built : BuiltStore} {e : ListenFailure}
      (hpassed : Passed s path c trusted built)
      (h : Gatehouse.listen s.bind c.server.listen = .error e) :
      Course s path (.starting :: fingerprintEvents trusted ++ storeEvents built ++ [],
        .error (.listen e))
  | started {c : Config} {trusted : FingerprintSet} {built : BuiltStore}
      {address : Net.SocketAddress} (hpassed : Passed s path c trusted built)
      (h : Gatehouse.listen s.bind c.server.listen = .ok address) :
      Course s path (.starting :: fingerprintEvents trusted ++ storeEvents built ++ [.listening],
        .ok ⟨c, ⟨trusted, built.store⟩, address⟩)

/-- Every start takes its course. -/
theorem course_start (s : Surroundings) (path : String) : Course s path (start s path) := by
  unfold start prepare
  cases hload : Config.load path (s.files path) with
  | error e => exact .config hload
  | ok c =>
    unfold prepareWith
    cases hkeys : c.routing.fingerprints s.files with
    | error e =>
      simp only [hkeys]
      exact .hostKey hload hkeys
    | ok trusted =>
      cases hbuild : c.store.build s.environment s.connect with
      | error e =>
        simp only [hkeys, hbuild]
        exact .store hload hkeys hbuild
      | ok built =>
        have hpassed : Passed s path c trusted built := ⟨hload, hkeys, hbuild⟩
        simp only [hkeys, hbuild]
        unfold Prepared.start
        cases hlisten : Gatehouse.listen s.bind c.server.listen with
        | error e =>
          exact .listen hpassed hlisten
        | ok address =>
          exact .started hpassed hlisten

section listening
variable {s : Surroundings} {path : String}

theorem listening_not_mem_fingerprintEvents (trusted : FingerprintSet) :
    Event.listening ∉ fingerprintEvents trusted := by
  unfold fingerprintEvents
  cases trusted.isEmpty <;> decide

theorem listening_not_mem_storeEvents (built : BuiltStore) :
    Event.listening ∉ storeEvents built := by
  unfold storeEvents
  cases built.hasUsers <;> decide

/-- A start that ends before the listener does not tell that it listens. -/
theorem listening_not_mem_of_error {e : StartFailure} (h : (start s path).2 = .error e) :
    Event.listening ∉ (start s path).1 := by
  have hcourse := course_start s path
  generalize start s path = reached at h hcourse
  cases hcourse with
  | config _ => exact List.not_mem_nil
  | hostKey _ _ =>
    show Event.listening ∉ [Event.starting]
    decide
  | store _ _ _ => simp [listening_not_mem_fingerprintEvents]
  | listen _ _ => simp [listening_not_mem_fingerprintEvents, listening_not_mem_storeEvents]
  | started _ _ => cases h

/-- Who listens has passed all stages. -/
theorem passed_of_started {started : Started} (h : (start s path).2 = .ok started) :
    ∃ c trusted built, Passed s path c trusted built ∧
      listen s.bind c.server.listen = .ok started.address ∧
      started = ⟨c, ⟨trusted, built.store⟩, started.address⟩ ∧
      Event.listening ∈ (start s path).1 := by
  have hcourse := course_start s path
  generalize start s path = reached at h hcourse
  cases hcourse with
  | config _ => cases h
  | hostKey _ _ => cases h
  | store _ _ _ => cases h
  | listen _ _ => cases h
  | started hpassed hlisten =>
    obtain rfl := Except.ok.inj h
    exact ⟨_, _, _, hpassed, hlisten, rfl, by simp⟩

/-- With listed users and a valid configuration a start gets to the listener, unless a host key
    is missing or the machine refuses the address. -/
theorem start_of_static {c : Config} (hload : Config.load path (s.files path) = .ok c)
    (hstatic : c.store.backend = .static) :
    (∃ started, (start s path).2 = .ok started) ∨
      (∃ e, c.routing.fingerprints s.files = .error e ∧
        (start s path).2 = .error (.hostKey e)) ∨
      ∃ address reason, s.bind address = .error reason ∧
        (start s path).2 = .error (.listen (.refused address reason)) := by
  have hvalid := Config.validate_of_load hload
  obtain ⟨memory, -, hbuilt⟩ := Config.build_of_validate hstatic hvalid s.environment s.connect
  have hcourse := course_start s path
  generalize start s path = reached at hcourse ⊢
  cases hcourse with
  | config h =>
    rw [hload] at h
    cases h
  | hostKey hload' h =>
    obtain rfl := Except.ok.inj (hload.symm.trans hload')
    exact .inr (.inl ⟨_, h, rfl⟩)
  | store hload' _ h =>
    -- The validation has looked at every listed user.
    obtain rfl := Except.ok.inj (hload.symm.trans hload')
    rw [hbuilt] at h
    cases h
  | listen hpassed h =>
    obtain rfl := Except.ok.inj (hload.symm.trans hpassed.load)
    rcases Config.listen_of_validate hvalid s.bind with
      ⟨address, hok⟩ | ⟨address, reason, hbind, hno⟩
    · rw [hok] at h
      cases h
    · obtain rfl := Except.error.inj (hno.symm.trans h)
      exact .inr (.inr ⟨address, reason, hbind, rfl⟩)
  | started _ _ => exact .inl ⟨_, rfl⟩

end listening

/-! ## Whole runs -/

section run
variable {s : Surroundings} {words : List String} {path : String} (signal : Signal)

theorem run_of_started (hwords : CommandLine.parse words = .ok (.run path)) {started : Started}
    (h : (start s path).2 = .ok started) :
    run s words signal = ((start s path).1 ++ stopEvents signal, .stopped) := by
  unfold run
  simp only [hwords]
  generalize start s path = reached at h
  obtain ⟨events, e | reached⟩ := reached
  · cases h
  · rfl

theorem run_of_error (hwords : CommandLine.parse words = .ok (.run path)) {e : StartFailure}
    (h : (start s path).2 = .error e) :
    run s words signal = ((start s path).1, .failed e) := by
  unfold run
  simp only [hwords]
  generalize start s path = reached at h
  obtain ⟨events, e' | reached⟩ := reached
  · obtain rfl := Except.error.inj h
    rfl
  · cases h

end run

/-- The program is run with a configuration path, on any machine.
    * Once the configuration is loaded, later stages do not fail for what it says: the listed
      users can be stored in whatever order they are taken, the database is described and has
      connections, and the listen address is one.
    * With listed users the program then listens and serves until it is stopped, or it ends
      with the fault of a host key file or with the machine's refusal of the address.
    * It listens only if the configuration is loaded, all host keys are read and the store is
      built. -/
theorem run_of_load (s : Surroundings) {words : List String} {path : String}
    (hwords : CommandLine.parse words = .ok (.run path)) (signal : Signal) :
    let events := (run s words signal).1
    let ending := (run s words signal).2
    (∀ c, Config.load path (s.files path) = .ok c →
      (c.store.backend = .static →
        (∀ entries : List (String × String), entries.Perm c.store.users.entries →
          ∃ memory, MemoryStore.load Directory.empty entries = .ok memory) ∧
        ∃ built, c.store.build s.environment s.connect = .ok built) ∧
      (c.store.backend = .postgres →
        c.store.build s.environment s.connect ≠ .error .databaseMissing ∧
        ∃ d, c.store.database = some d ∧ 1 ≤ d.maxConnections) ∧
      listen s.bind c.server.listen ≠ .error .notAnAddress ∧
      (c.store.backend = .static →
        (Event.listening ∈ events ∧ ending = .stopped) ∨
        (∃ e, c.routing.fingerprints s.files = .error e ∧ Event.listening ∉ events ∧
          ending = .failed (.hostKey e)) ∨
        ∃ address reason, s.bind address = .error reason ∧ Event.listening ∉ events ∧
          ending = .failed (.listen (.refused address reason)))) ∧
    (Event.listening ∈ events → ∃ c trusted built, Passed s path c trusted built) := by
  intro events ending
  constructor
  · intro c hload
    have hvalid := Config.validate_of_load hload
    refine ⟨?_, ?_, ?_, ?_⟩
    · intro hstatic
      obtain ⟨memory, -, hbuilt⟩ := Config.build_of_validate hstatic hvalid s.environment s.connect
      exact ⟨fun entries horder => Config.exists_load_of_perm hstatic hvalid horder, _, hbuilt⟩
    · intro hpostgres
      obtain ⟨-, -, hstore⟩ := Config.validate_eq_ok_iff.1 hvalid
      obtain ⟨d, hd, hconnections⟩ := StoreSection.database_of_validate hpostgres hstore
      refine ⟨Config.build_ne_databaseMissing hpostgres hvalid s.environment s.connect, d, hd, ?_⟩
      rw [UInt32.le_iff_toNat_le]
      have hne : d.maxConnections.toNat ≠ 0 := fun h => hconnections (UInt32.toNat_inj.1 h)
      exact Nat.one_le_iff_ne_zero.2 hne
    · rcases Config.listen_of_validate hvalid s.bind with ⟨address, h⟩ | ⟨address, reason, -, h⟩
      · rw [h]
        exact fun heq => by cases heq
      · rw [h]
        exact fun heq => by cases heq
    · intro hstatic
      rcases start_of_static hload hstatic with
        ⟨started, h⟩ | ⟨e, hkeys, h⟩ | ⟨address, reason, hbind, h⟩
      · obtain ⟨-, -, -, -, -, -, hlistening⟩ := passed_of_started h
        simp only [events, ending, run_of_started signal hwords h]
        exact .inl ⟨List.mem_append_left _ hlistening, trivial⟩
      · simp only [events, ending, run_of_error signal hwords h]
        exact .inr (.inl ⟨e, hkeys, listening_not_mem_of_error h, rfl⟩)
      · simp only [events, ending, run_of_error signal hwords h]
        exact .inr (.inr ⟨address, reason, hbind, listening_not_mem_of_error h, rfl⟩)
  · intro hlistening
    cases h : (start s path).2 with
    | error e =>
      simp only [events, run_of_error signal hwords h] at hlistening
      exact absurd hlistening (listening_not_mem_of_error h)
    | ok started =>
      obtain ⟨c, trusted, built, hpassed, -⟩ := passed_of_started h
      exact ⟨c, trusted, built, hpassed⟩

/-- Alice is listed, there are no host keys, and the machine takes no address but its own: the
    program ends at the listener. -/
theorem run_of_load_refused :
    let yaml := "server:\n  listen: 192.0.2.1:80\nstore:\n  backend: static\n  users:\n"
      ++ "    alice: ssh-rsa AAAADHJzYS1zaGEyLTUxMgAAAAMBAAEAAAADAP8B\n"
    let s : Surroundings := {
      files       := fun path => if path = "g.yaml" then .holding (Text.bytes yaml) else .absent
      environment := fun _ => none
      connect     := fun _ => .error .poolTimedOut
      bind        := fun _ => .error "Cannot assign requested address (os error 99)" }
    CommandLine.parse ["-c", "g.yaml"] = .ok (.run "g.yaml") ∧
      (∃ c, Config.load "g.yaml" (s.files "g.yaml") = .ok c ∧ c.store.backend = .static) ∧
      Event.listening ∉ (run s ["-c", "g.yaml"] .terminate).1 ∧
      ∃ address reason,
        (run s ["-c", "g.yaml"] .terminate).2 = .failed (.listen (.refused address reason)) := by
  intro yaml s
  have hwords : CommandLine.parse ["-c", "g.yaml"] = .ok (.run "g.yaml") := rfl
  let c : Config := ⟨⟨"192.0.2.1:80"⟩, .defaults, ⟨.static, none,
    Directory.ofList [("alice", "ssh-rsa AAAADHJzYS1zaGEyLTUxMgAAAAMBAAEAAAADAP8B")]⟩⟩
  have hload : Config.load "g.yaml" (s.files "g.yaml") = .ok c := ok_of_toOption (by decide +kernel)
  obtain ⟨hloaded, -⟩ := run_of_load s hwords .terminate
  obtain ⟨-, -, -, hends⟩ := hloaded c hload
  refine ⟨hwords, ⟨c, hload, rfl⟩, ?_⟩
  rcases hends rfl with ⟨hlistening, -⟩ | ⟨e, hkeys, -, -⟩ | ⟨address, reason, -, hsilent, hending⟩
  · exact absurd hlistening (by decide +kernel)
  · cases hkeys
  · exact ⟨hsilent, address, reason, hending⟩

end Gatehouse
