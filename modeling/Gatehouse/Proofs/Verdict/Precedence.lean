import Gatehouse.Proofs.Identity.Inverse
import Gatehouse.Proofs.Result
import Gatehouse.Proofs.Verdict

/-! # What decides a key check, and what comes first

    A key check can end in five ways, and `Concludes` has one constructor for each, with all
    that must have gone well before.  The check is the only conclusion there is
    (`verify_eq_iff`), so the order of the failures is read off the premises: a malformed
    username goes before everything, a failed lookup before the line, the line before the
    comparison.

    What remains to decide a check is the owner whom the username names and the blob that the
    line holds.  The target, the options, the comment and the blanks have no part in it, and
    of the store only the record of one owner does, whose name is a segment
    (`verify_by_owner_and_key`). -/

namespace Gatehouse

namespace Undecided

/-! ## Kinds

  The name of a cause tells which of the four it is. -/

variable {cause : Undecided}

theorem kind_eq_malformed_iff :
    cause.kind = "malformed_identity" ↔ ∃ e, cause = .malformedIdentity e := by
  cases cause <;> simp [kind]

theorem kind_eq_userNotFound_iff :
    cause.kind = "user_not_found" ↔ ∃ owner, cause = .userNotFound owner := by
  cases cause <;> simp [kind]

theorem kind_eq_store_iff : cause.kind = "store_error" ↔ ∃ reason, cause = .store reason := by
  cases cause <;> simp [kind]

end Undecided

/-! ## Conclusions -/

/-- How a key check ends, with what it takes to end so. -/
inductive Concludes (store : Store) (username line : String) : Except Undecided Bool → Prop where
  /-- The username names nobody. -/
  | malformed {e : MalformedIdentity} :
      Identity.decode username = .error e →
      Concludes store username line (.error (.malformedIdentity e))
  /-- The owner has no record. -/
  | unknown {identity : Identity} {owner : String} :
      Identity.decode username = .ok identity →
      store.lookup identity.owner = .error (.notFound owner) →
      Concludes store username line (.error (.userNotFound owner))
  /-- Whether the owner has a record cannot be told. -/
  | unavailable {identity : Identity} {reason : String} :
      Identity.decode username = .ok identity →
      store.lookup identity.owner = .error (.unavailable reason) →
      Concludes store username line (.error (.store reason))
  /-- The owner has a record, but no key is offered. -/
  | unreadable {identity : Identity} {record : UserRecord} {fault : Key.LineFault} :
      Identity.decode username = .ok identity →
      store.lookup identity.owner = .ok record →
      AuthorizedKey.parse line = .error fault →
      Concludes store username line (.error (.keyParse fault))
  /-- There are two blobs to compare. -/
  | decided {identity : Identity} {record : UserRecord} {offered : AuthorizedKey} :
      Identity.decode username = .ok identity →
      store.lookup identity.owner = .ok record →
      AuthorizedKey.parse line = .ok offered →
      Concludes store username line (.ok (decide (offered.blob = record.key)))

section conclusions
variable {store : Store} {username line : String}

variable (store username line) in
/-- A key check ends in one of these ways. -/
theorem concludes_verify : Concludes store username line (verify store username line) := by
  cases hdecode : Identity.decode username with
  | error e =>
    rw [verify_of_malformed line hdecode]
    exact .malformed hdecode
  | ok identity =>
    cases hlookup : store.lookup identity.owner with
    | error e =>
      rw [verify_of_lookup_error line hdecode hlookup]
      cases e with
      | notFound owner => exact .unknown hdecode hlookup
      | unavailable reason => exact .unavailable hdecode hlookup
    | ok record =>
      cases hline : AuthorizedKey.parse line with
      | error fault =>
        rw [verify_of_line_error hdecode hlookup hline]
        exact .unreadable hdecode hlookup hline
      | ok offered =>
        rw [verify_of_line hdecode hlookup hline]
        exact .decided hdecode hlookup hline

/-- And it ends in no other way. -/
theorem Concludes.verify_eq {result : Except Undecided Bool}
    (h : Concludes store username line result) : verify store username line = result := by
  cases h with
  | malformed hdecode => exact verify_of_malformed line hdecode
  | unknown hdecode hlookup => exact verify_of_lookup_error line hdecode hlookup
  | unavailable hdecode hlookup => exact verify_of_lookup_error line hdecode hlookup
  | unreadable hdecode hlookup hline => exact verify_of_line_error hdecode hlookup hline
  | decided hdecode hlookup hline => exact verify_of_line hdecode hlookup hline

theorem verify_eq_iff {result : Except Undecided Bool} :
    verify store username line = result ↔ Concludes store username line result := by
  constructor
  · intro h
    rw [← h]
    exact concludes_verify store username line
  · intro h
    exact h.verify_eq

/-! ## Failures in their order -/

/-- A malformed username is reported as such, whatever the store and the line are. -/
theorem verify_eq_malformed_iff {e : MalformedIdentity} :
    verify store username line = .error (.malformedIdentity e) ↔
      Identity.decode username = .error e := by
  constructor
  · intro h
    cases verify_eq_iff.1 h with
    | malformed hdecode => exact hdecode
  · intro hdecode
    exact verify_of_malformed line hdecode

/-- A failed lookup is reported as such, whether or not the line holds a key. -/
theorem verify_eq_ofLookup_iff (e : LookupError) :
    verify store username line = .error (.ofLookup e) ↔
      ∃ identity, Identity.decode username = .ok identity ∧
        store.lookup identity.owner = .error e := by
  constructor
  · intro h
    cases e with
    | notFound owner =>
      cases verify_eq_iff.1 h with
      | unknown hdecode hlookup => exact ⟨_, hdecode, hlookup⟩
    | unavailable reason =>
      cases verify_eq_iff.1 h with
      | unavailable hdecode hlookup => exact ⟨_, hdecode, hlookup⟩
  · rintro ⟨identity, hdecode, hlookup⟩
    exact verify_of_lookup_error line hdecode hlookup

section named
variable {identity : Identity}

theorem verify_eq_ofLookup_iff_of_decode (h : Identity.decode username = .ok identity)
    (e : LookupError) :
    verify store username line = .error (.ofLookup e) ↔ store.lookup identity.owner = .error e := by
  rw [verify_eq_ofLookup_iff]
  constructor
  · rintro ⟨identity', hdecode, hlookup⟩
    obtain rfl := Except.ok.inj (h.symm.trans hdecode)
    exact hlookup
  · intro hlookup
    exact ⟨identity, h, hlookup⟩

variable {record : UserRecord}

/-- The line is to blame only once the record is there. -/
theorem verify_eq_keyParse_iff (h : Identity.decode username = .ok identity)
    (hlookup : store.lookup identity.owner = .ok record) {fault : Key.LineFault} :
    verify store username line = .error (.keyParse fault) ↔
      AuthorizedKey.parse line = .error fault := by
  constructor
  · intro hverify
    cases verify_eq_iff.1 hverify with
    | unreadable _ _ hline => exact hline
  · intro hline
    exact verify_of_line_error h hlookup hline

theorem verify_eq_decided_iff (h : Identity.decode username = .ok identity)
    (hlookup : store.lookup identity.owner = .ok record) {success : Bool} :
    verify store username line = .ok success ↔
      ∃ offered, AuthorizedKey.parse line = .ok offered ∧
        success = decide (offered.blob = record.key) := by
  constructor
  · intro hverify
    cases verify_eq_iff.1 hverify with
    | decided hdecode hlookup' hline =>
      obtain rfl := Except.ok.inj (h.symm.trans hdecode)
      obtain rfl := Except.ok.inj (hlookup.symm.trans hlookup')
      exact ⟨_, hline, rfl⟩
  · rintro ⟨offered, hline, rfl⟩
    exact verify_of_line h hlookup hline

end named

/-- A failure of the store is never that of a missing record. -/
theorem exists_reason_of_kind {cause : Undecided} (h : verify store username line = .error cause)
    (hkind : cause.kind = "store_error") :
    ∃ identity reason, Identity.decode username = .ok identity ∧
      store.lookup identity.owner = .error (.unavailable reason) ∧ cause = .store reason := by
  obtain ⟨reason, rfl⟩ := Undecided.kind_eq_store_iff.1 hkind
  obtain ⟨identity, hdecode, hlookup⟩ := (verify_eq_ofLookup_iff (.unavailable reason)).1 h
  exact ⟨identity, reason, hdecode, hlookup, rfl⟩

end conclusions

/-! ## What decides -/

/-- One owner and one blob have one result. -/
theorem verify_eq_of_owner_of_blob (store : Store) {username username' line line' : String}
    {identity identity' : Identity} {offered offered' : AuthorizedKey}
    (hdecode : Identity.decode username = .ok identity)
    (hdecode' : Identity.decode username' = .ok identity')
    (howner : identity.owner = identity'.owner)
    (hline : AuthorizedKey.parse line = .ok offered)
    (hline' : AuthorizedKey.parse line' = .ok offered')
    (hblob : offered.blob = offered'.blob) :
    verify store username line = verify store username' line' := by
  cases hlookup : store.lookup identity.owner with
  | error e =>
    have hlookup' : store.lookup identity'.owner = .error e := howner ▸ hlookup
    rw [verify_of_lookup_error line hdecode hlookup, verify_of_lookup_error line' hdecode' hlookup']
  | ok record =>
    have hlookup' : store.lookup identity'.owner = .ok record := howner ▸ hlookup
    rw [verify_of_line hdecode hlookup hline, verify_of_line hdecode' hlookup' hline', hblob]

/-- No check asks for an owner whose name is no segment. -/
theorem verify_congr_segments {store other : Store}
    (h : ∀ owner, Identity.IsSegment owner → other.lookup owner = store.lookup owner)
    (username line : String) : verify other username line = verify store username line := by
  apply verify_congr
  intro identity hdecode
  have hvalid : identity.IsValid := (Identity.decode_eq_ok_iff.1 hdecode).1
  exact h identity.owner hvalid.1

/-- A key check depends on the owner and the key, and its failures come in a fixed order:
    * usernames that name one owner, with whatever targets, and lines that hold one blob, with
      whatever options, comments and blanks, have the same result;
    * a check ends for a malformed username exactly if the username is malformed;
    * else it ends for an owner without a record, or for a store that cannot answer, exactly
      if the lookup does, whether or not the line holds a key;
    * else it ends for the line exactly if the line holds no key, and otherwise in a verdict;
    * what is reported as a failure of the store is one: the store could not answer;
    * only owners are asked for whose names hold some text and no delimiter: what a store
      answers for any other owner has no part in any result. -/
theorem verify_by_owner_and_key (store : Store) :
    (∀ (username username' line line' : String) (identity identity' : Identity)
      (offered offered' : AuthorizedKey), Identity.decode username = .ok identity →
      Identity.decode username' = .ok identity' → identity.owner = identity'.owner →
      AuthorizedKey.parse line = .ok offered → AuthorizedKey.parse line' = .ok offered' →
      offered.blob = offered'.blob →
      verify store username line = verify store username' line') ∧
    (∀ (username line : String) (e : MalformedIdentity),
      verify store username line = .error (.malformedIdentity e) ↔
        Identity.decode username = .error e) ∧
    (∀ (username line : String) (identity : Identity), Identity.decode username = .ok identity →
      (∀ owner, verify store username line = .error (.userNotFound owner) ↔
        store.lookup identity.owner = .error (.notFound owner)) ∧
      (∀ reason, verify store username line = .error (.store reason) ↔
        store.lookup identity.owner = .error (.unavailable reason)) ∧
      ∀ record, store.lookup identity.owner = .ok record →
        (∀ fault, verify store username line = .error (.keyParse fault) ↔
          AuthorizedKey.parse line = .error fault) ∧
        ∀ success, verify store username line = .ok success ↔
          ∃ offered, AuthorizedKey.parse line = .ok offered ∧
            success = decide (offered.blob = record.key)) ∧
    (∀ (username line : String) (cause : Undecided), verify store username line = .error cause →
      cause.kind = "store_error" → ∃ identity reason, Identity.decode username = .ok identity ∧
        store.lookup identity.owner = .error (.unavailable reason) ∧
        cause.message = queryFailed reason) ∧
    ∀ other : Store,
      (∀ owner, owner ≠ "" → '#' ∉ owner.toList → other.lookup owner = store.lookup owner) →
      ∀ username line, verify other username line = verify store username line := by
  refine ⟨?_, ?_, ?_, ?_, ?_⟩
  · intro username username' line line' identity identity' offered offered' hdecode hdecode' howner
      hline hline' hblob
    exact verify_eq_of_owner_of_blob store hdecode hdecode' howner hline hline' hblob
  · intro username line e
    exact verify_eq_malformed_iff
  · intro username line identity hdecode
    refine ⟨fun owner => verify_eq_ofLookup_iff_of_decode hdecode (.notFound owner),
      fun reason => verify_eq_ofLookup_iff_of_decode hdecode (.unavailable reason), ?_⟩
    intro record hlookup
    exact ⟨fun fault => verify_eq_keyParse_iff hdecode hlookup,
      fun success => verify_eq_decided_iff hdecode hlookup⟩
  · intro username line cause hverify hkind
    obtain ⟨identity, reason, hdecode, hlookup, rfl⟩ := exists_reason_of_kind hverify hkind
    exact ⟨identity, reason, hdecode, hlookup, rfl⟩
  · intro other hsame
    apply verify_congr_segments
    intro owner hsegment
    exact hsame owner hsegment.1 hsegment.2

/-- Alice reaches two backends with one key.  She offers it once behind options and once bare, in
    a blob that names the algorithm of its signatures; a store that would know the empty owner
    and one called `alice#a` makes no difference to her. -/
theorem verify_by_owner_and_key_alice :
    let key : List UInt8 := [0, 0, 0, 7, 0x73, 0x73, 0x68, 0x2d, 0x72, 0x73, 0x61, 0, 0, 0, 3, 1,
      0, 1, 0, 0, 0, 3, 0, 255, 1]
    let store : Store := ⟨"static", fun owner =>
      if owner = "alice" then .ok ⟨owner, key⟩ else .error (.notFound owner), .ok ()⟩
    let other : Store := ⟨"static", fun owner =>
      if owner = "alice" ∨ owner = "" ∨ owner = "alice#a" then .ok ⟨owner, key⟩
      else .error (.notFound owner), .ok ()⟩
    let line := "command=\"echo \\\" hi\",no-pty ssh-rsa AAAAB3NzaC1yc2EAAAADAQABAAAAAwD/AQ== a  b "
    let line' := "\tssh-rsa AAAADHJzYS1zaGEyLTUxMgAAAAMBAAEAAAADAP8B"
    AuthorizedKey.parse line = .ok ⟨"ssh-rsa", key, some "a b"⟩ ∧
      AuthorizedKey.parse line' = .ok ⟨"ssh-rsa", key, none⟩ ∧
      verify store "alice#gpu-box-1" line = verify store "alice#gpu-box-2" line' ∧
      verify store "alice#gpu-box-1" line = .ok true ∧
      verify store "alice#a#" line = .error (.malformedIdentity ⟨"alice#a#", .extraDelimiter⟩) ∧
      verify store "bob#gpu-box-1" "no key" = .error (.userNotFound "bob") ∧
      verify other "#gpu-box-1" line = verify store "#gpu-box-1" line := by
  intro key store other line line'
  have hline : AuthorizedKey.parse line = .ok ⟨"ssh-rsa", key, some "a b"⟩ :=
    ok_of_toOption (by decide +kernel)
  have hline' : AuthorizedKey.parse line' = .ok ⟨"ssh-rsa", key, none⟩ :=
    ok_of_toOption (by decide +kernel)
  have hdecode : Identity.decode "alice#gpu-box-1" = .ok ⟨"alice", "gpu-box-1"⟩ :=
    ok_of_toOption (by decide +kernel)
  have hdecode' : Identity.decode "alice#gpu-box-2" = .ok ⟨"alice", "gpu-box-2"⟩ :=
    ok_of_toOption (by decide +kernel)
  have hbob : Identity.decode "bob#gpu-box-1" = .ok ⟨"bob", "gpu-box-1"⟩ :=
    ok_of_toOption (by decide +kernel)
  obtain ⟨hsame, hmalformed, hnamed, -, hasked⟩ := verify_by_owner_and_key store
  have hequal := hsame _ _ _ _ _ _ _ _ hdecode hdecode' rfl hline hline' rfl
  refine ⟨hline, hline', hequal, ?_, ?_, ?_, ?_⟩
  · exact (((hnamed _ line _ hdecode).2.2 ⟨"alice", key⟩ rfl).2 true).2 ⟨_, hline, rfl⟩
  · exact (hmalformed _ line _).2 rfl
  · exact ((hnamed _ "no key" _ hbob).1 "bob").2 rfl
  · refine hasked other ?_ _ _
    intro owner hempty hdelimiter
    have hother : owner ≠ "alice#a" := by
      rintro rfl
      exact hdelimiter (by decide)
    show (if owner = "alice" ∨ owner = "" ∨ owner = "alice#a" then _ else _) =
      if owner = "alice" then _ else _
    simp only [hempty, hother, or_false]

end Gatehouse
