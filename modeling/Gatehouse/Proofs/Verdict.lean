import Gatehouse.Verdict

/-! # What a verdict depends on

    The comparison that looks at every byte decides plain equality (`keysMatch_eq`): the
    differences it collects are all zero exactly when there is none.

    A key check goes through three stages, each of which can end it: the username, the
    owner's record, the offered line.  There is one lemma for each way it can end, and
    `verify_eq_ok_iff` says what it takes to reach a verdict.

    Core Lean 4 only. -/

namespace Gatehouse

/-! ## Comparing all bytes -/

/-- The collected difference is zero only if no two bytes differ. -/
theorem foldl_difference_eq_zero (pairs : List (UInt8 × UInt8)) (acc : UInt8) :
    pairs.foldl (fun acc p => acc ||| (p.1 ^^^ p.2)) acc = 0 ↔
      acc = 0 ∧ ∀ p ∈ pairs, p.1 = p.2 := by
  induction pairs generalizing acc with
  | nil => simp
  | cons p pairs ih =>
    have hstep : acc ||| (p.1 ^^^ p.2) = 0 ↔ acc = 0 ∧ p.1 = p.2 := by
      rw [UInt8.or_eq_zero_iff, UInt8.xor_eq_zero_iff]
    rw [List.foldl_cons, ih, hstep, List.forall_mem_cons, and_assoc]

/-- Lists of one length are equal if they agree at every place. -/
theorem eq_iff_zip {a b : List UInt8} (h : a.length = b.length) :
    a = b ↔ ∀ p ∈ a.zip b, p.1 = p.2 := by
  induction a generalizing b with
  | nil =>
    cases b with
    | nil => simp
    | cons y b => cases h
  | cons x a ih =>
    cases b with
    | nil => cases h
    | cons y b =>
      have hlength : a.length = b.length := Nat.succ.inj h
      rw [List.cons.injEq, List.zip_cons_cons, List.forall_mem_cons, ih hlength]

/-- Keys match if they are the same bytes, in number and in value. -/
theorem keysMatch_eq (offered registered : List UInt8) :
    keysMatch offered registered = decide (offered = registered) := by
  unfold keysMatch
  rw [Bool.eq_iff_iff, Bool.and_eq_true, beq_iff_eq, beq_iff_eq, foldl_difference_eq_zero,
    decide_eq_true_iff]
  constructor
  · rintro ⟨hlength, -, hall⟩
    exact (eq_iff_zip hlength).2 hall
  · rintro rfl
    exact ⟨rfl, rfl, (eq_iff_zip rfl).1 rfl⟩

/-! ## The stages of a key check -/

section stages
variable {store : Store} {username : String} {identity : Identity} {record : UserRecord}

/-- A malformed username ends the check before the store is asked. -/
theorem verify_of_malformed {e : MalformedIdentity} (line : String)
    (h : Identity.decode username = .error e) :
    verify store username line = .error (.malformedIdentity e) := by
  unfold verify
  rw [h]

/-- A failed lookup ends the check before the line is read. -/
theorem verify_of_lookup_error {e : LookupError} (line : String)
    (h : Identity.decode username = .ok identity)
    (hlookup : store.lookup identity.owner = .error e) :
    verify store username line = .error (.ofLookup e) := by
  unfold verify
  rw [h]
  simp only [hlookup]

theorem verify_of_line_error {line : String} {fault : Key.LineFault}
    (h : Identity.decode username = .ok identity)
    (hlookup : store.lookup identity.owner = .ok record)
    (hline : AuthorizedKey.parse line = .error fault) :
    verify store username line = .error (.keyParse fault) := by
  unfold verify
  rw [h]
  simp only [hlookup, hline]

theorem verify_of_line {line : String} {offered : AuthorizedKey}
    (h : Identity.decode username = .ok identity)
    (hlookup : store.lookup identity.owner = .ok record)
    (hline : AuthorizedKey.parse line = .ok offered) :
    verify store username line = .ok (decide (offered.blob = record.key)) := by
  unfold verify
  rw [h]
  simp only [hlookup, hline, keysMatch_eq]

end stages

/-- Of the store, a check sees the record of the owner that the username names. -/
theorem verify_congr {store other : Store} {username : String} (line : String)
    (h : ∀ identity, Identity.decode username = .ok identity →
      store.lookup identity.owner = other.lookup identity.owner) :
    verify store username line = verify other username line := by
  cases hdecode : Identity.decode username with
  | error e => rw [verify_of_malformed line hdecode, verify_of_malformed line hdecode]
  | ok identity =>
    have hlookup := h identity hdecode
    unfold verify
    simp only [hdecode, hlookup]

/-- A verdict takes a username, a record of its owner and a key, and compares the blobs. -/
theorem verify_eq_ok_iff {store : Store} {username line : String} {success : Bool} :
    verify store username line = .ok success ↔
      ∃ identity record offered, Identity.decode username = .ok identity ∧
        store.lookup identity.owner = .ok record ∧ AuthorizedKey.parse line = .ok offered ∧
        success = decide (offered.blob = record.key) := by
  constructor
  · -- Each stage that fails ends in an error, so each has succeeded.
    intro h
    cases hdecode : Identity.decode username with
    | error e =>
      rw [verify_of_malformed line hdecode] at h
      cases h
    | ok identity =>
      cases hlookup : store.lookup identity.owner with
      | error e =>
        rw [verify_of_lookup_error line hdecode hlookup] at h
        cases h
      | ok record =>
        cases hline : AuthorizedKey.parse line with
        | error fault =>
          rw [verify_of_line_error hdecode hlookup hline] at h
          cases h
        | ok offered =>
          rw [verify_of_line hdecode hlookup hline] at h
          exact ⟨identity, record, offered, rfl, hlookup, rfl, (Except.ok.inj h).symm⟩
  · rintro ⟨identity, record, offered, hdecode, hlookup, hline, rfl⟩
    exact verify_of_line hdecode hlookup hline

end Gatehouse
