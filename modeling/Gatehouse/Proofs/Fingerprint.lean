import Gatehouse.Proofs.Base64.Bits
import Gatehouse.Proofs.Config.WellFormed
import Gatehouse.Proofs.Key.Grammar

/-! # What a fingerprint tells

    A computed fingerprint is the stem and 43 symbols that spell the digest of the blob, and
    nothing else: the digest can be read back from it, so two blobs share a fingerprint only if
    they share a digest (`ofBlob_eq_iff`).  No configuration is refused for it
    (`Config.not_looksLikeFingerprint_of_validate`).

    The fingerprint of a key that is read from a line depends on one field of the line, that of
    the blob (`blob_eq_of_isReadFrom`). -/

namespace Gatehouse

/-! ## Digests in base64 -/

namespace Fingerprint

open Digest

/-- The symbols of a fingerprint. -/
def symbols (blob : List UInt8) : List Char := Base64.encode .unpadded (sha256 blob)

section
variable (blob : List UInt8)

theorem ofBlob_eq : ofBlob blob = "SHA256:" ++ String.ofList (symbols blob) := rfl

theorem length_symbols : (symbols blob).length = 43 := by
  unfold symbols
  rw [Base64.length_encode, sha256_length]

/-- The symbols spell the digest; two bits are left over. -/
theorem flatMap_symbolBits_symbols :
    (symbols blob).flatMap Base64.symbolBits =
      (sha256 blob).flatMap Base64.byteBits ++ [false, false] := by
  unfold symbols
  rw [Base64.flatMap_symbolBits_encode, sha256_length]
  rfl

/-- The digest is read back; one character is missing to full groups. -/
theorem decode_symbols :
    Base64.decode (Text.bytes (String.ofList (symbols blob) ++ "=")) = .ok (sha256 blob) := by
  have hread := Base64.decode_encode_unpadded (sha256 blob)
  rw [sha256_length, String.ofList_append] at hread
  exact hread

end

/-- Fingerprints are as good as digests. -/
theorem ofBlob_eq_iff {blob blob' : List UInt8} :
    ofBlob blob = ofBlob blob' ↔ sha256 blob = sha256 blob' := by
  constructor
  · intro h
    rw [ofBlob_eq, ofBlob_eq] at h
    have hsymbols : symbols blob = symbols blob' := by
      have hlist := congrArg String.toList h
      simp only [String.toList_append, String.toList_ofList] at hlist
      exact List.append_cancel_left hlist
    exact Base64.encode_unpadded_inj hsymbols
  · intro h
    unfold ofBlob
    rw [h]

theorem looksLikeFingerprint_ofBlob (blob : List UInt8) : LooksLikeFingerprint (ofBlob blob) :=
  isPlausible_iff.1 (isPlausible_ofBlob blob)

end Fingerprint

/-- A text for which a configuration is refused does not look like a fingerprint. -/
theorem Config.not_looksLikeFingerprint_of_validate {c : Config} {f : String}
    (h : c.validate = .error (.fingerprint f)) : ¬ LooksLikeFingerprint f := by
  rw [← validateAlong_entries] at h
  cases Config.validateAlong_eq_error_iff.1 h with
  | fingerprint _ hfirst => exact hfirst.holds
  | store _ _ hstore =>
    -- What is reported of a store is never a fingerprint.
    cases hstore with
    | user _ _ hfault => cases hfault

/-! ## Fields of keys -/

namespace AuthorizedKey

open Text

/-- Is the key read from this base64 field of a line?  The fields start where the line does, its
    outer blanks gone, or behind options. -/
def IsReadFrom (k : AuthorizedKey) (line : String) (field : List Char) : Prop :=
  ∃ rest declared comment, rest <:+ trim line.toList ∧
    IsFields rest (declared :: field :: comment) ∧ parseFields rest = .ok k

section
variable {line line' : String} {k k' : AuthorizedKey} {field : List Char}

theorem isReadFrom_of_isKeyText {rest : List Char} (hrest : rest <:+ trim line.toList)
    (h : IsKeyText rest k) : ∃ field, k.IsReadFrom line field := by
  have hparse := parseFields_eq_ok_iff.2 h
  obtain ⟨declared, field, comment, _, _, hfields, -⟩ := h
  exact ⟨field, rest, declared, comment, hrest, hfields, hparse⟩

/-- Every key that is read from a line is read from a field of it. -/
theorem exists_isReadFrom_of_parse (h : parse line = .ok k) :
    ∃ field, k.IsReadFrom line field := by
  obtain ⟨-, -, htext | ⟨-, options, blanks, rest, -, -, -, htext, hline⟩⟩ := parse_eq_ok_iff.1 h
  · exact isReadFrom_of_isKeyText (List.suffix_refl _) htext
  · exact isReadFrom_of_isKeyText ⟨options ++ blanks, hline.symm⟩ htext

/-- The field decides the blob.  The options, the name, the comment and the blanks may differ. -/
theorem blob_eq_of_isReadFrom (h : k.IsReadFrom line field) (h' : k'.IsReadFrom line' field) :
    k.blob = k'.blob := by
  obtain ⟨rest, declared, comment, -, hfields, hk⟩ := h
  obtain ⟨rest', declared', comment', -, hfields', hk'⟩ := h'
  obtain ⟨_, _, _, key, hwords, hkey, -, rfl⟩ := words_of_parseFields hk
  obtain ⟨_, _, _, key', hwords', hkey', -, rfl⟩ := words_of_parseFields hk'
  rw [isFields_iff.1 hfields] at hwords
  rw [isFields_iff.1 hfields'] at hwords'
  simp only [List.cons.injEq] at hwords hwords'
  rw [← hwords.2.1] at hkey
  rw [← hwords'.2.1, hkey] at hkey'
  rw [Except.ok.inj hkey']

end

end AuthorizedKey

namespace Fingerprint

open Digest AuthorizedKey

/-- Fingerprints are well formed and as telling as digests.
    * The fingerprint of a blob is the stem and 43 symbols of base64, without padding.  They
      spell the 32 bytes of the digest and two bits that are not set, and with one character of
      padding behind them they are read back as the digest.
    * Two fingerprints are the same exactly if the digests are.
    * A list of computed fingerprints is admitted in a configuration, and no configuration at all
      is refused for a computed fingerprint.
    * Keys with the same blob have the same fingerprint.  Each line that is read has one field
      that decides it, whatever stands around the field. -/
theorem ofBlob_faithful :
    (∀ blob, ∃ symbols : List Char,
      ofBlob blob = "SHA256:" ++ String.ofList symbols ∧ symbols.length = 43 ∧
      (∀ c ∈ symbols, c ∈ Base64.alphabet) ∧ (sha256 blob).length = 32 ∧
      symbols.flatMap Base64.symbolBits =
        (sha256 blob).flatMap Base64.byteBits ++ [false, false] ∧
      Base64.decode (Text.bytes (String.ofList symbols ++ "=")) = .ok (sha256 blob)) ∧
    (∀ blob blob', ofBlob blob = ofBlob blob' ↔ sha256 blob = sha256 blob') ∧
    (∀ blobs : List (List UInt8), checkFingerprints (blobs.map ofBlob) = .ok ()) ∧
    (∀ (c : Config) blob, c.validate ≠ .error (.fingerprint (ofBlob blob))) ∧
    (∀ line line' k k', parse line = .ok k → parse line' = .ok k' → k.blob = k'.blob →
      k.fingerprint = k'.fingerprint) ∧
    ∀ line k, parse line = .ok k → ∃ field, k.IsReadFrom line field ∧
      ∀ line' (k' : AuthorizedKey), k'.IsReadFrom line' field →
        k'.fingerprint = k.fingerprint := by
  refine ⟨?_, fun blob blob' => ofBlob_eq_iff, ?_, ?_, ?_, ?_⟩
  · intro blob
    exact ⟨symbols blob, ofBlob_eq blob, length_symbols blob,
      Base64.mem_alphabet_of_mem_encode (sha256 blob), sha256_length blob,
      flatMap_symbolBits_symbols blob, decode_symbols blob⟩
  · intro blobs
    rw [checkFingerprints_eq_ok_iff_looks, List.forall_mem_map]
    exact fun blob _ => looksLikeFingerprint_ofBlob blob
  · intro c blob h
    exact Config.not_looksLikeFingerprint_of_validate h (looksLikeFingerprint_ofBlob blob)
  · intro line line' k k' _ _ hblob
    unfold AuthorizedKey.fingerprint
    rw [hblob]
  · intro line k hk
    obtain ⟨field, hfield⟩ := exists_isReadFrom_of_parse hk
    refine ⟨field, hfield, ?_⟩
    intro line' k' hfield'
    unfold AuthorizedKey.fingerprint
    rw [blob_eq_of_isReadFrom hfield' hfield]

/-- One RSA key on two lines, behind options and with a comment on the first, and with its blob
    under another name there. -/
theorem ofBlob_faithful_rsa :
    ∃ k k' : AuthorizedKey,
      parse "no-pty,command=\"echo a\" \tssh-rsa AAAADHJzYS1zaGEyLTUxMgAAAAMBAAEAAAADAP8B alice" =
        .ok k ∧
      parse " ssh-rsa\u3000AAAAB3NzaC1yc2EAAAADAQABAAAAAwD/AQ==\t" = .ok k' ∧ k ≠ k' ∧
      k.fingerprint = k'.fingerprint ∧
      k'.fingerprint = "SHA256:wVIaTuUo8LnBdv+Gj+PIUt2dvgDaHPsqzQDLNQT17wg" := by
  have hline : parse
      "no-pty,command=\"echo a\" \tssh-rsa AAAADHJzYS1zaGEyLTUxMgAAAAMBAAEAAAADAP8B alice" =
      .ok ⟨"ssh-rsa", [0, 0, 0, 7, 0x73, 0x73, 0x68, 0x2d, 0x72, 0x73, 0x61, 0, 0, 0, 3, 1, 0, 1,
        0, 0, 0, 3, 0, 255, 1], some "alice"⟩ := ok_of_toOption (by decide +kernel)
  have hline' : parse " ssh-rsa\u3000AAAAB3NzaC1yc2EAAAADAQABAAAAAwD/AQ==\t" =
      .ok ⟨"ssh-rsa", [0, 0, 0, 7, 0x73, 0x73, 0x68, 0x2d, 0x72, 0x73, 0x61, 0, 0, 0, 3, 1, 0, 1,
        0, 0, 0, 3, 0, 255, 1], none⟩ := ok_of_toOption (by decide +kernel)
  obtain ⟨-, -, -, -, hsame, -⟩ := ofBlob_faithful
  exact ⟨_, _, hline, hline', by decide, hsame _ _ _ _ hline hline' rfl, by decide +kernel⟩

/-- The digest of no bytes at all. -/
example : ofBlob [] = "SHA256:47DEQpj8HBSa+/TImW+5JCeuQeRkm5NMpJWZG3hSuFU" := by decide +kernel

end Fingerprint

end Gatehouse
