import Gatehouse.Config.Load
import Gatehouse.Proofs.Config.Validity
import Gatehouse.Proofs.Route

/-! # The fingerprints that a configuration trusts

    Trust comes from two places: fingerprints written down, which the validation looks at from
    afar, and key files, whose fingerprints are computed.  They are gathered only if every file
    gives a key (`fingerprintsOf_eq_ok_iff`), and then nothing is lost and nothing is added
    (`mem_fingerprints_iff`).

    Core Lean 4 only. -/

namespace Gatehouse

/-! ## Key files -/

section files
variable {files : Files}

/-- The files are read if each holds a key; the fingerprints are those of the keys, in the order
    of the files. -/
theorem fingerprintsOf_eq_ok_iff {paths fs : List String} :
    fingerprintsOf files paths = .ok fs ↔
      ∃ keys : List AuthorizedKey, paths.map (fun path => Key.ofFile path (files path)) =
        keys.map .ok ∧ fs = keys.map (·.fingerprint) := by
  induction paths generalizing fs with
  | nil =>
    constructor
    · intro h
      exact ⟨[], rfl, (Except.ok.inj h).symm⟩
    · rintro ⟨keys, hkeys, rfl⟩
      rw [List.map_eq_nil_iff.1 hkeys.symm]
      rfl
  | cons path paths ih =>
    cases hfile : Key.ofFile path (files path) with
    | error e =>
      simp only [fingerprintsOf, hfile, List.map_cons]
      constructor
      · intro h
        cases h
      · rintro ⟨keys, hkeys, -⟩
        cases keys <;> cases hkeys
    | ok key =>
      simp only [fingerprintsOf, hfile, List.map_cons]
      constructor
      · intro h
        cases hrest : fingerprintsOf files paths with
        | error e =>
          rw [hrest] at h
          cases h
        | ok further =>
          rw [hrest] at h
          obtain ⟨keys, hkeys, rfl⟩ := ih.1 hrest
          exact ⟨key :: keys, congrArg _ hkeys, (Except.ok.inj h).symm⟩
      · rintro ⟨keys, hkeys, rfl⟩
        cases keys with
        | nil => cases hkeys
        | cons first keys =>
          obtain ⟨hfirst, hrest⟩ := List.cons.inj hkeys
          obtain rfl := Except.ok.inj hfirst
          rw [ih.2 ⟨keys, hrest, rfl⟩]
          rfl

theorem mem_fingerprintsOf_iff {paths fs : List String} (h : fingerprintsOf files paths = .ok fs)
    {f : String} :
    f ∈ fs ↔
      ∃ path ∈ paths, ∃ key, Key.ofFile path (files path) = .ok key ∧ key.fingerprint = f := by
  obtain ⟨keys, hkeys, rfl⟩ := fingerprintsOf_eq_ok_iff.1 h
  have hread (key : AuthorizedKey) :
      key ∈ keys ↔ ∃ path ∈ paths, Key.ofFile path (files path) = .ok key := by
    rw [← List.mem_map, hkeys]
    simp
  simp only [List.mem_map, hread]
  constructor
  · rintro ⟨key, ⟨path, hpath, hkey⟩, rfl⟩
    exact ⟨path, hpath, key, hkey, rfl⟩
  · rintro ⟨path, hpath, key, hkey, rfl⟩
    exact ⟨key, ⟨path, hpath, hkey⟩, rfl⟩

/-- Of files that were all read each holds a key. -/
theorem exists_ofFile_of_fingerprintsOf {paths fs : List String}
    (h : fingerprintsOf files paths = .ok fs) {path : String} (hpath : path ∈ paths) :
    ∃ key, Key.ofFile path (files path) = .ok key := by
  obtain ⟨keys, hkeys, -⟩ := fingerprintsOf_eq_ok_iff.1 h
  have hmem : Key.ofFile path (files path) ∈ keys.map .ok := hkeys ▸ List.mem_map_of_mem hpath
  obtain ⟨key, -, hkey⟩ := List.mem_map.1 hmem
  exact ⟨key, hkey.symm⟩

end files

/-! ## The whole section -/

namespace RoutingSection

variable {r : RoutingSection} {files : Files} {trusted : FingerprintSet}

theorem exists_of_fingerprints (h : r.fingerprints files = .ok trusted) :
    ∃ further, fingerprintsOf files r.hostKeyFiles = .ok further ∧
      trusted = .ofList (r.trustedFingerprints ++ further) := by
  unfold fingerprints at h
  cases hfiles : fingerprintsOf files r.hostKeyFiles with
  | error e =>
    rw [hfiles] at h
    cases h
  | ok further =>
    rw [hfiles] at h
    exact ⟨further, rfl, (Except.ok.inj h).symm⟩

/-- Trusted is what is written down and what the files hold, and nothing else. -/
theorem mem_fingerprints_iff (h : r.fingerprints files = .ok trusted) {f : String} :
    f ∈ trusted.toList ↔ f ∈ r.trustedFingerprints ∨
      ∃ path ∈ r.hostKeyFiles, ∃ key, Key.ofFile path (files path) = .ok key ∧
        key.fingerprint = f := by
  obtain ⟨further, hfiles, rfl⟩ := exists_of_fingerprints h
  rw [FingerprintSet.mem_ofList, List.mem_append, mem_fingerprintsOf_iff hfiles]

/-- The key of every file is trusted. -/
theorem exists_ofFile_of_fingerprints (h : r.fingerprints files = .ok trusted) {path : String}
    (hpath : path ∈ r.hostKeyFiles) :
    ∃ key, Key.ofFile path (files path) = .ok key ∧ key.fingerprint ∈ trusted.toList := by
  obtain ⟨further, hfiles, -⟩ := exists_of_fingerprints h
  obtain ⟨key, hkey⟩ := exists_ofFile_of_fingerprintsOf hfiles hpath
  exact ⟨key, hkey, (mem_fingerprints_iff h).2 (.inr ⟨path, hpath, key, hkey, rfl⟩)⟩

/-- If what is written down looks like fingerprints, all that is trusted does. -/
theorem isPlausible_of_fingerprints (h : r.fingerprints files = .ok trusted)
    (hwritten : checkFingerprints r.trustedFingerprints = .ok ()) {f : String}
    (hf : f ∈ trusted.toList) : Fingerprint.isPlausible f = true := by
  rcases (mem_fingerprints_iff h).1 hf with hf | ⟨path, hpath, key, hkey, rfl⟩
  · exact checkFingerprints_eq_ok_iff.1 hwritten f hf
  · exact Fingerprint.isPlausible_ofBlob key.blob

end RoutingSection

end Gatehouse
