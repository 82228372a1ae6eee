import Gatehouse.Proofs.Config.Fingerprints
import Gatehouse.Proofs.Key.File

/-! # All host keys or none

    The fingerprints that are trusted are those written down and, behind them, those of the key
    files, in the order of the files.  Each is kept where it comes first, so a key that is
    already trusted adds nothing, however its line is written (`fingerprints_drop_known`).

    The reading ends at the first file without a key (`fingerprintsOf_eq_error_iff`), and then
    nothing is trusted at all. -/

namespace Gatehouse

/-! ## The first file without a key -/

/-- Does the file at a path give no key? -/
def Files.LacksKey (files : Files) (path : String) : Prop :=
  ∀ key, Key.ofFile path (files path) ≠ .ok key

section files
variable {files : Files}

theorem not_lacksKey_iff {path : String} :
    ¬ files.LacksKey path ↔ ∃ key, Key.ofFile path (files path) = .ok key := by
  unfold Files.LacksKey
  rw [Classical.not_forall]
  simp only [ne_eq, Classical.not_not]

/-- The reading fails with the fault of the first file that gives no key. -/
theorem fingerprintsOf_eq_error_iff {paths : List String} {e : Key.FileError} :
    fingerprintsOf files paths = .error e ↔
      ∃ path, IsFirst files.LacksKey paths path ∧ Key.ofFile path (files path) = .error e := by
  induction paths with
  | nil => simp [fingerprintsOf]
  | cons path paths ih =>
    cases hfile : Key.ofFile path (files path) with
    | error fault =>
      have hlacks : files.LacksKey path := by
        intro key hkey
        rw [hfile] at hkey
        cases hkey
      simp only [fingerprintsOf, hfile, isFirst_cons_of_pos hlacks, exists_eq_left,
        Except.error.injEq]
    | ok key =>
      -- A key here leaves the result to the files behind, of which only a fault counts.
      have hgives : ¬ files.LacksKey path := not_lacksKey_iff.2 ⟨key, hfile⟩
      simp only [isFirst_cons_of_neg hgives, ← ih, fingerprintsOf, hfile]
      cases fingerprintsOf files paths <;> simp [Except.map]

theorem exists_fingerprintsOf_iff {paths : List String} :
    (∃ fs, fingerprintsOf files paths = .ok fs) ↔
      ∀ path ∈ paths, ∃ key, Key.ofFile path (files path) = .ok key := by
  constructor
  · rintro ⟨fs, hfs⟩ path hpath
    exact exists_ofFile_of_fingerprintsOf hfs hpath
  · intro hall
    cases hread : fingerprintsOf files paths with
    | ok fs => exact ⟨fs, rfl⟩
    | error e =>
      obtain ⟨path, hfirst, -⟩ := fingerprintsOf_eq_error_iff.1 hread
      exact absurd hfirst.holds (not_lacksKey_iff.2 (hall path hfirst.mem))

end files

/-! ## What is kept -/

/-- A fingerprint that stands further in front makes no difference. -/
theorem FingerprintSet.ofList_drop_known {before after : List String} {f : String}
    (h : f ∈ before) : ofList (before ++ f :: after) = ofList (before ++ after) := by
  -- What stands in front is removed from the rest before this is searched for repetitions.
  have hskip : (f :: after).removeAll before = after.removeAll before := by
    simp [List.removeAll, h]
  apply FingerprintSet.ext_toList
  rw [toList_ofList, toList_ofList, List.eraseDups_append, List.eraseDups_append, hskip]

namespace RoutingSection

variable {r : RoutingSection} {files : Files} {trusted : FingerprintSet}

theorem fingerprints_eq_error_iff {e : Key.FileError} :
    r.fingerprints files = .error e ↔ ∃ path, IsFirst files.LacksKey r.hostKeyFiles path ∧
      Key.ofFile path (files path) = .error e := by
  rw [← fingerprintsOf_eq_error_iff]
  unfold fingerprints
  cases fingerprintsOf files r.hostKeyFiles <;> simp

theorem exists_fingerprints_iff :
    (∃ trusted, r.fingerprints files = .ok trusted) ↔
      ∀ path ∈ r.hostKeyFiles, ∃ key, Key.ofFile path (files path) = .ok key := by
  rw [← exists_fingerprintsOf_iff]
  unfold fingerprints
  cases fingerprintsOf files r.hostKeyFiles <;> simp

/-- What is trusted are the fingerprints written down and those of the files' keys, in this order
    and each at its first mention. -/
theorem fingerprints_eq_ok_iff :
    r.fingerprints files = .ok trusted ↔
      ∃ keys : List AuthorizedKey,
        r.hostKeyFiles.map (fun path => Key.ofFile path (files path)) = keys.map .ok ∧
        trusted = .ofList (r.trustedFingerprints ++ keys.map (·.fingerprint)) := by
  constructor
  · intro h
    obtain ⟨further, hfiles, rfl⟩ := exists_of_fingerprints h
    obtain ⟨keys, hkeys, rfl⟩ := fingerprintsOf_eq_ok_iff.1 hfiles
    exact ⟨keys, hkeys, rfl⟩
  · rintro ⟨keys, hkeys, rfl⟩
    unfold fingerprints
    rw [fingerprintsOf_eq_ok_iff.2 ⟨keys, hkeys, rfl⟩]

/-- Is the fingerprint written down, or that of a key in one of the files? -/
def Mentions (r : RoutingSection) (files : Files) (paths : List String) (f : String) : Prop :=
  f ∈ r.trustedFingerprints ∨
    ∃ path ∈ paths, ∃ key, Key.ofFile path (files path) = .ok key ∧ key.fingerprint = f

/-- A file whose key is mentioned before it might as well not be listed. -/
theorem fingerprints_drop_known (h : r.fingerprints files = .ok trusted) {before after : List String}
    {path : String} (hsplit : r.hostKeyFiles = before ++ path :: after) {key : AuthorizedKey}
    (hkey : Key.ofFile path (files path) = .ok key)
    (hknown : r.Mentions files before key.fingerprint) :
    fingerprints { r with hostKeyFiles := before ++ after } files = .ok trusted := by
  obtain ⟨keys, hkeys, rfl⟩ := fingerprints_eq_ok_iff.1 h
  rw [hsplit, List.map_append, List.map_cons] at hkeys
  -- The keys are split as the files are.
  obtain ⟨front, others, rfl, hfront, hothers⟩ := List.map_eq_append_iff.1 hkeys.symm
  obtain ⟨k, back, rfl, hk, hback⟩ := List.map_eq_cons_iff.1 hothers
  obtain rfl : k = key := Except.ok.inj (hk.trans hkey)
  have hmem : k.fingerprint ∈ r.trustedFingerprints ++ front.map (·.fingerprint) := by
    rcases hknown with hwritten | ⟨path', hpath', key', hkey', hsame⟩
    · exact List.mem_append_left _ hwritten
    -- The reading succeeded, so a file in front gave one of the keys in front.
    · have hread : Key.ofFile path' (files path') ∈ front.map .ok :=
        hfront ▸ List.mem_map_of_mem hpath'
      rw [hkey'] at hread
      obtain ⟨k', hk', heq⟩ := List.mem_map.1 hread
      obtain rfl := Except.ok.inj heq
      exact List.mem_append_right _ (List.mem_map.2 ⟨k', hk', hsame⟩)
  refine fingerprints_eq_ok_iff.2 ⟨front ++ back, ?_, ?_⟩
  · rw [List.map_append, List.map_append, hfront, hback]
  · rw [List.map_append, List.map_append, List.map_cons, ← List.append_assoc, ← List.append_assoc,
      FingerprintSet.ofList_drop_known hmem]

/-- The trusted fingerprints are gathered from all key files or not at all.
    * They are gathered if every file holds a text whose first line that is neither blank nor a
      comment gives a key, and only then.
    * What is trusted then are the fingerprints written down, in their order, and those of the
      keys, in the order of the files, each at its first mention only.  The fingerprint of every
      file's key is there once, and keys with the same blob have the same one.  A file is
      without effect if its fingerprint is written down, or if a file before it has a key with
      the same blob, as when a file is named twice.
    * Otherwise the fault is that of the first file that gives no key, whatever is in the files
      behind it. -/
theorem fingerprints_all_or_none (r : RoutingSection) (files : Files) :
    ((∃ trusted, r.fingerprints files = .ok trusted) ↔
      ∀ path ∈ r.hostKeyFiles, ∃ text line key, files path = .holding (Text.bytes text) ∧
        IsFirst (¬ Key.IsIdle ·) (Text.lines text.toList) line ∧
        AuthorizedKey.parse (String.ofList line) = .ok key) ∧
    (∀ trusted, r.fingerprints files = .ok trusted →
      (∃ keys : List AuthorizedKey,
        r.hostKeyFiles.map (fun path => Key.ofFile path (files path)) = keys.map .ok ∧
        trusted.toList = (r.trustedFingerprints ++ keys.map (·.fingerprint)).eraseDups) ∧
      (∀ path ∈ r.hostKeyFiles, ∀ key, Key.ofFile path (files path) = .ok key →
        trusted.toList.count key.fingerprint = 1 ∧
        ∀ other : AuthorizedKey, other.blob = key.blob → other.fingerprint = key.fingerprint) ∧
      ∀ before path after key, r.hostKeyFiles = before ++ path :: after →
        Key.ofFile path (files path) = .ok key →
        (key.fingerprint ∈ r.trustedFingerprints ∨ ∃ path' ∈ before, ∃ key',
          Key.ofFile path' (files path') = .ok key' ∧ key'.blob = key.blob) →
        fingerprints { r with hostKeyFiles := before ++ after } files = .ok trusted) ∧
    ∀ e, r.fingerprints files = .error e ↔
      ∃ before path after, r.hostKeyFiles = before ++ path :: after ∧
        (∀ p ∈ before, ∃ key, Key.ofFile p (files p) = .ok key) ∧
        Key.ofFile path (files path) = .error e := by
  have hblob {key other : AuthorizedKey} (h : other.blob = key.blob) :
      other.fingerprint = key.fingerprint := congrArg Fingerprint.ofBlob h
  refine ⟨?_, ?_, ?_⟩
  · rw [exists_fingerprints_iff]
    simp only [Key.ofFile_eq_ok_iff]
    constructor
    · intro h path hpath
      obtain ⟨key, text, line, hread⟩ := h path hpath
      exact ⟨text, line, key, hread⟩
    · intro h path hpath
      obtain ⟨text, line, key, hread⟩ := h path hpath
      exact ⟨key, text, line, hread⟩
  · intro trusted h
    refine ⟨?_, ?_, ?_⟩
    · obtain ⟨keys, hkeys, rfl⟩ := fingerprints_eq_ok_iff.1 h
      exact ⟨keys, hkeys, FingerprintSet.toList_ofList _⟩
    · intro path hpath key hkey
      have hmem := (mem_fingerprints_iff h).2 (.inr ⟨path, hpath, key, hkey, rfl⟩)
      refine ⟨?_, fun other hother => hblob hother⟩
      rw [trusted.nodup.count, if_pos hmem]
    · intro before path after key hsplit hkey hknown
      refine fingerprints_drop_known h hsplit hkey ?_
      rcases hknown with hwritten | ⟨path', hpath', key', hkey', hsame⟩
      · exact .inl hwritten
      · exact .inr ⟨path', hpath', key', hkey', hblob hsame⟩
  · intro e
    rw [fingerprints_eq_error_iff]
    constructor
    · rintro ⟨path, ⟨before, after, hsplit, hbefore, -⟩, hfault⟩
      exact ⟨before, path, after, hsplit, fun p hp => not_lacksKey_iff.1 (hbefore p hp), hfault⟩
    · rintro ⟨before, path, after, hsplit, hbefore, hfault⟩
      refine ⟨path, ⟨before, after, hsplit, fun p hp => not_lacksKey_iff.2 (hbefore p hp), ?_⟩,
        hfault⟩
      intro key hkey
      rw [hfault] at hkey
      cases hkey

/-- Two files hold one key, once behind options and in a blob that names the algorithm of its
    signatures: listing the second changes nothing.  A third file, which is not there, is what the
    reading of all of them fails for. -/
theorem fingerprints_all_or_none_spare :
    let files : Files := fun path =>
      if path = "host.pub" then .holding (Text.bytes
        "# backend\nssh-rsa AAAAB3NzaC1yc2EAAAADAQABAAAAAwD/AQ== box\n")
      else if path = "spare.pub" then .holding (Text.bytes
        "no-pty ssh-rsa  AAAADHJzYS1zaGEyLTUxMgAAAAMBAAEAAAADAP8B\r\n")
      else .absent
    let r : RoutingSection := ⟨["SHA256:inline"], ["host.pub", "spare.pub"]⟩
    ∃ trusted, r.fingerprints files = .ok trusted ∧ trusted.toList.length = 2 ∧
      RoutingSection.fingerprints ⟨["SHA256:inline"], ["host.pub"]⟩ files = .ok trusted ∧
      RoutingSection.fingerprints ⟨[], ["host.pub", "absent.pub", "spare.pub"]⟩ files =
        .error (.unreadable "absent.pub" .notFound) := by
  intro files r
  let blob : List UInt8 := [0, 0, 0, 7, 0x73, 0x73, 0x68, 0x2d, 0x72, 0x73, 0x61, 0, 0, 0, 3, 1, 0,
    1, 0, 0, 0, 3, 0, 255, 1]
  have hhost : Key.ofFile "host.pub" (files "host.pub") = .ok ⟨"ssh-rsa", blob, some "box"⟩ :=
    ok_of_toOption (by decide +kernel)
  have hspare : Key.ofFile "spare.pub" (files "spare.pub") = .ok ⟨"ssh-rsa", blob, none⟩ :=
    ok_of_toOption (by decide +kernel)
  let trusted : FingerprintSet := ⟨["SHA256:inline",
    "SHA256:wVIaTuUo8LnBdv+Gj+PIUt2dvgDaHPsqzQDLNQT17wg"], by decide⟩
  have htrusted : r.fingerprints files = .ok trusted := ok_of_toOption (by decide +kernel)
  obtain ⟨-, hgathered, -⟩ := fingerprints_all_or_none r files
  obtain ⟨-, -, hdrop⟩ := hgathered trusted htrusted
  obtain ⟨-, -, hfault⟩ :=
    fingerprints_all_or_none ⟨[], ["host.pub", "absent.pub", "spare.pub"]⟩ files
  refine ⟨trusted, htrusted, rfl, ?_, ?_⟩
  · exact hdrop ["host.pub"] "spare.pub" [] _ rfl hspare
      (.inr ⟨"host.pub", List.mem_singleton.2 rfl, _, hhost, rfl⟩)
  · refine (hfault _).2 ⟨["host.pub"], "absent.pub", ["spare.pub"], rfl, ?_, rfl⟩
    intro path hpath
    obtain rfl := List.mem_singleton.1 hpath
    exact ⟨_, hhost⟩

end RoutingSection

end Gatehouse
