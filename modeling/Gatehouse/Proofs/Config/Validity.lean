import Gatehouse.Config.Validity

/-! # What a valid configuration is

    A configuration is valid if each of its sections is (`validate_eq_ok_iff`).  The trusted
    fingerprints that somebody wrote down have to look like fingerprints
    (`checkFingerprints_eq_ok_iff`); computed ones always do (`isPlausible_ofBlob`).

    Core Lean 4 only. -/

namespace Gatehouse

/-! ## What looks like a fingerprint -/

namespace Fingerprint

/-- A text that begins like a fingerprint and goes on. -/
theorem isPlausible_iff {text : String} :
    isPlausible text = true ↔ ∃ rest, rest ≠ "" ∧ text = stem ++ rest := by
  unfold isPlausible
  rw [Bool.and_eq_true, List.isPrefixOf_iff_prefix, decide_eq_true_iff]
  constructor
  · rintro ⟨⟨rest, hrest⟩, hlength⟩
    refine ⟨String.ofList rest, ?_, ?_⟩
    · -- Nothing would follow the stem, but the text is longer.
      intro hnone
      have hnil : rest = [] := by simpa using hnone
      rw [hnil, List.append_nil] at hrest
      rw [← String.length_toList, ← String.length_toList, hrest] at hlength
      exact Nat.lt_irrefl _ hlength
    · apply String.toList_injective
      rw [String.toList_append, String.toList_ofList, hrest]
  · rintro ⟨rest, hrest, rfl⟩
    refine ⟨⟨rest.toList, by rw [String.toList_append]⟩, ?_⟩
    have hpos : 0 < rest.length := by
      rw [← String.length_toList]
      exact List.length_pos_iff.2 fun hnil => hrest (String.toList_eq_nil_iff.1 hnil)
    rw [String.length_append]
    omega

theorem base64_ne_nil {padding : Base64.Padding} {bytes : List UInt8} (h : bytes ≠ []) :
    Base64.encode padding bytes ≠ [] := by
  match bytes, h with
  | [_], _ => simp [Base64.encode]
  | [_, _], _ => simp [Base64.encode]
  | _ :: _ :: _ :: _, _ => simp [Base64.encode]

/-- A computed fingerprint looks like one: a digest is never empty. -/
theorem isPlausible_ofBlob (blob : List UInt8) : isPlausible (ofBlob blob) = true := by
  have hdigest : Digest.sha256 blob ≠ [] := by
    intro hnil
    have hlength := Digest.sha256_length blob
    rw [hnil] at hlength
    cases hlength
  refine isPlausible_iff.2 ⟨_, ?_, rfl⟩
  intro hnone
  exact base64_ne_nil hdigest (by simpa using hnone)

end Fingerprint

/-- Written fingerprints are admitted if each looks like one, and only then. -/
theorem checkFingerprints_eq_ok_iff {fs : List String} :
    checkFingerprints fs = .ok () ↔ ∀ f ∈ fs, Fingerprint.isPlausible f = true := by
  induction fs with
  | nil => simp [checkFingerprints]
  | cons f fs ih =>
    rw [List.forall_mem_cons, ← ih]
    by_cases hf : Fingerprint.isPlausible f = true
    · simp [checkFingerprints, hf]
    · simp [checkFingerprints, hf]

/-! ## What a valid configuration consists of -/

/-- A configuration is valid exactly if each of its three sections is. -/
theorem Config.validate_eq_ok_iff {c : Config} :
    c.validate = .ok () ↔ (∃ address, Net.SocketAddress.parse c.server.listen = some address) ∧
      checkFingerprints c.routing.trustedFingerprints = .ok () ∧ c.store.validate = .ok () := by
  unfold Config.validate
  cases Net.SocketAddress.parse c.server.listen with
  | none => simp
  | some address =>
    cases checkFingerprints c.routing.trustedFingerprints with
    | error e => simp
    | ok u => simp

/-- Of a valid section of a database there is something to connect to. -/
theorem StoreSection.database_of_validate {s : StoreSection} (hpostgres : s.backend = .postgres)
    (hvalid : s.validate = .ok ()) : ∃ d, s.database = some d ∧ d.maxConnections ≠ 0 := by
  unfold StoreSection.validate at hvalid
  cases hdatabase : s.database with
  | none =>
    simp only [hpostgres, hdatabase] at hvalid
    cases hvalid
  | some d =>
    simp only [hpostgres, hdatabase] at hvalid
    refine ⟨d, rfl, ?_⟩
    intro hnone
    rw [if_pos hnone] at hvalid
    cases hvalid

end Gatehouse
