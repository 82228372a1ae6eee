import Gatehouse.Proofs.Key.Rendering

/-! # The two names of a line

    A line names its algorithm twice: in its first word and, as a string, in front of its
    blob.  The first word must be the algorithm of the key that the blob holds.  The name in
    front of the blob then is the same one, with a single exception: an RSA key may be
    written under the names of its signatures, and is an `ssh-rsa` key all the same
    (`beginsWith_algorithm_iff`).

    The canonical blob of a key always begins with its algorithm, so that keys with one blob
    have one algorithm. -/

namespace Gatehouse

namespace Key

/-! ## What a reader took stands in front -/

namespace Wire

theorem eq_of_readLength {s r : List UInt8} {n : Nat} (h : readLength s = .ok (n, r)) :
    s = writeLength n ++ r := by
  unfold readLength at h
  split at h
  · rename_i a b c d rest
    simp only at h
    split at h
    · simp only [Except.ok.injEq, Prod.mk.injEq] at h
      obtain ⟨hn, rfl⟩ := h
      have ha := a.toNat_lt
      have hb := b.toNat_lt
      have hc := c.toNat_lt
      have hd := d.toNat_lt
      -- Each byte is found again in the number that the four of them make up.
      have hfirst : UInt8.ofNat (n / 16777216) = a := Base64.ofNat_eq_of_mod (by omega)
      have hsecond : UInt8.ofNat (n / 65536) = b := Base64.ofNat_eq_of_mod (by omega)
      have hthird : UInt8.ofNat (n / 256) = c := Base64.ofNat_eq_of_mod (by omega)
      have hfourth : UInt8.ofNat n = d := Base64.ofNat_eq_of_mod (by omega)
      rw [writeLength, hfirst, hsecond, hthird, hfourth]
      rfl
    · cases h
  · cases h

theorem eq_of_readBytes {n : Nat} {s b r : List UInt8} (h : readBytes n s = .ok (b, r)) :
    s = b ++ r := by
  unfold readBytes at h
  simp only at h
  split at h
  · simp only [Except.ok.injEq, Prod.mk.injEq] at h
    obtain ⟨rfl, rfl⟩ := h
    exact (List.take_append_drop n s).symm
  · cases h

theorem eq_of_readShort {bound : Nat} {s b r : List UInt8} (h : readShort bound s = .ok (b, r)) :
    s = writeString b ++ r := by
  unfold readShort at h
  split at h
  · cases h
  · rename_i n rest hn
    split at h
    · rw [eq_of_readLength hn, eq_of_readBytes h, ← length_of_readBytes h, writeString,
        List.append_assoc]
    · cases h

theorem eq_of_readShortText {bound : Nat} {s r : List UInt8} {t : String}
    (h : readShortText bound s = .ok (t, r)) : s = writeText t ++ r := by
  unfold readShortText at h
  split at h
  · cases h
  · rename_i b rest hb
    split at h
    · cases h
    · rename_i t' ht
      simp only [Except.ok.injEq, Prod.mk.injEq] at h
      obtain ⟨rfl, rfl⟩ := h
      rw [eq_of_readShort hb, writeText, Text.bytes_of_ofBytes? ht]

/-- The name, as a string, is the first that stands in the blob. -/
def BeginsWith (name : String) (blob : List UInt8) : Prop := writeText name <+: blob

instance (name : String) (blob : List UInt8) : Decidable (BeginsWith name blob) :=
  inferInstanceAs (Decidable (_ <+: _))

/-- A blob begins with one name only. -/
theorem BeginsWith.unique {name other : String} {blob : List UInt8} (h : BeginsWith name blob)
    (hother : BeginsWith other blob) (hname : (Text.bytes name).length ≤ maxLength)
    (hlength : (Text.bytes other).length ≤ maxLength) : name = other := by
  obtain ⟨rest, rfl⟩ := h
  obtain ⟨rest', hblob⟩ := hother
  -- Both are what the reader takes from the front of the one blob.
  have hread := readShortText_writeText hname hname rest
  have hreadOther := readShortText_writeText hlength hlength rest'
  rw [hblob, hread] at hreadOther
  exact (Prod.mk.inj (Except.ok.inj hreadOther)).1

end Wire

/-! ## The name of a key and the name in its blob -/

namespace PublicKey

open Wire

/-- The names of RSA signatures.  A blob may carry one in place of the algorithm. -/
def rsaSignatures : List String := ["rsa-sha2-256", "rsa-sha2-512"]

/-- A kind is found under its own name, and RSA keys also under those of their signatures. -/
theorem Kind.eq_name_of_ofName? {name : String} {kind : Kind} (h : Kind.ofName? name = some kind) :
    name = kind.name ∨ kind = .rsa ∧ name ∈ rsaSignatures := by
  unfold Kind.ofName? at h
  split at h
  case h_3 => cases h; exact .inr ⟨rfl, by decide⟩
  case h_4 => cases h; exact .inr ⟨rfl, by decide⟩
  case h_11 =>
    split at h
    · cases h
      exact .inl rfl
    · cases h
  all_goals
    cases h
    exact .inl rfl

section decode
variable {blob : List UInt8} {k : PublicKey}

/-- A blob that holds a key begins with a name, which announces the kind of the key. -/
theorem exists_name_of_decode (h : decode blob = .ok k) :
    ∃ name, BeginsWith name blob ∧ (name = k.algorithm ∨ k.kind = .rsa ∧ name ∈ rsaSignatures) := by
  obtain ⟨⟨name, rest⟩, hname, h⟩ := ok_of_bind h
  simp only at h
  split at h
  · cases h
  · rename_i kind hkind
    obtain ⟨⟨key, r⟩, hbody, h⟩ := ok_of_bind h
    cases h
    obtain ⟨rfl, -⟩ := partsFit_of_readBody hbody
    exact ⟨name, ⟨rest, (eq_of_readShortText hname).symm⟩, Kind.eq_name_of_ofName? hkind⟩

/-- No algorithm is called like a signature. -/
theorem algorithm_not_mem_rsaSignatures (h : k.IsCanonical) : k.algorithm ∉ rsaSignatures := by
  intro hmem
  have hkind : k.kind = .rsa := by
    have hnamed := h.named
    simp only [rsaSignatures, List.mem_cons, List.not_mem_nil, or_false] at hmem
    rcases hmem with hname | hname
    · rw [hname] at hnamed
      exact (Option.some.inj hnamed).symm
    · rw [hname] at hnamed
      exact (Option.some.inj hnamed).symm
  have hrsa : k.algorithm = "ssh-rsa" := by rw [algorithm, hkind]; rfl
  rw [hrsa] at hmem
  exact absurd hmem (by decide)

theorem length_le_of_mem_rsaSignatures {name : String} (h : name ∈ rsaSignatures) :
    (Text.bytes name).length ≤ maxLength := by
  simp only [rsaSignatures, List.mem_cons, List.not_mem_nil, or_false] at h
  rcases h with rfl | rfl <;> decide

/-- The blob begins with the algorithm of its key unless it begins with a signature's name. -/
theorem beginsWith_algorithm_iff (h : decode blob = .ok k) :
    BeginsWith k.algorithm blob ↔ ∀ name ∈ rsaSignatures, ¬ BeginsWith name blob := by
  have hcanonical := isCanonical_of_decode h
  have hshort : (Text.bytes k.algorithm).length ≤ maxLength :=
    Nat.le_trans hcanonical.short (by decide)
  constructor
  · intro halgorithm name hname hbegins
    have hsame := halgorithm.unique hbegins hshort (length_le_of_mem_rsaSignatures hname)
    exact algorithm_not_mem_rsaSignatures hcanonical (hsame ▸ hname)
  · intro hnone
    obtain ⟨name, hbegins, rfl | ⟨-, hname⟩⟩ := exists_name_of_decode h
    · exact hbegins
    · exact absurd hbegins (hnone name hname)

/-- Only an RSA key is written under the name of a signature. -/
theorem algorithm_of_beginsWith_signature (h : decode blob = .ok k) {name : String}
    (hname : name ∈ rsaSignatures) (hbegins : BeginsWith name blob) : k.algorithm = "ssh-rsa" := by
  have hnot : ¬ BeginsWith k.algorithm blob := fun halgorithm =>
    (beginsWith_algorithm_iff h).1 halgorithm name hname hbegins
  obtain ⟨name', hbegins', rfl | ⟨hkind, -⟩⟩ := exists_name_of_decode h
  · exact absurd hbegins' hnot
  · rw [algorithm, hkind]
    rfl

theorem beginsWith_encode (k : PublicKey) : BeginsWith k.algorithm k.encode :=
  List.prefix_append _ _

/-- Keys with one canonical blob are one key. -/
theorem eq_of_encode {k k' : PublicKey} (h : k.IsCanonical) (h' : k'.IsCanonical)
    (hblob : k.encode = k'.encode) : k = k' := by
  have hread := decode_encode h []
  have hread' := decode_encode h' []
  rw [hblob, hread'] at hread
  exact (Except.ok.inj hread).symm

end decode

end PublicKey

end Key

/-! ## Lines -/

namespace AuthorizedKey

open Key Key.Wire Key.PublicKey Text

/-- On a line that is read as a key, the first word, the algorithm of the key and the name in
    front of its canonical blob are the same name.  So is the name in front of the blob on the
    line, unless that is the name of an RSA signature on a line of an RSA key; and keys that
    were read with equal blobs have equal algorithms.  A line whose blob begins with any other
    name than its first word is refused. -/
theorem names_of_parseFields (s : List Char) :
    (∀ k, parseFields s = .ok k → ∃ declared field comment raw,
      words s = declared :: field :: comment ∧
      Base64.decode (bytes (String.ofList field)) = .ok raw ∧
      String.ofList declared = k.algorithm ∧ BeginsWith k.algorithm k.blob ∧
      (BeginsWith k.algorithm raw ↔ ∀ name ∈ rsaSignatures, ¬ BeginsWith name raw) ∧
      (∀ name ∈ rsaSignatures, BeginsWith name raw → k.algorithm = "ssh-rsa") ∧
      ∀ s' k', parseFields s' = .ok k' → k'.blob = k.blob → k'.algorithm = k.algorithm) ∧
    (∀ declared field comment raw, words s = declared :: field :: comment →
      Base64.decode (bytes (String.ofList field)) = .ok raw →
      ¬ BeginsWith (String.ofList declared) raw →
      (String.ofList declared = "ssh-rsa" → ∀ name ∈ rsaSignatures, ¬ BeginsWith name raw) →
      ∃ fault, parseFields s = .error fault) := by
  constructor
  · intro k h
    obtain ⟨declared, field, comment, key, hwords, hkey, halgorithm, rfl⟩ := words_of_parseFields h
    obtain ⟨raw, hraw, hdecode⟩ := decode_of_readField hkey
    refine ⟨declared, field, comment, raw, hwords, hraw, halgorithm.symm, beginsWith_encode key,
      beginsWith_algorithm_iff hdecode, ?_, ?_⟩
    · intro name hname hbegins
      exact algorithm_of_beginsWith_signature hdecode hname hbegins
    · intro s' k' h' hblob
      obtain ⟨_, _, _, key', -, hkey', -, rfl⟩ := words_of_parseFields h'
      obtain ⟨raw', -, hdecode'⟩ := decode_of_readField hkey'
      rw [eq_of_encode (isCanonical_of_decode hdecode') (isCanonical_of_decode hdecode) hblob]
  · intro declared field comment raw hwords hraw hnot hsignature
    cases h : parseFields s with
    | error fault => exact ⟨fault, rfl⟩
    | ok k =>
      -- Had the line been read, its blob would begin with the first word or a signature's name.
      obtain ⟨declared', field', _, key, hwords', hkey, halgorithm, -⟩ := words_of_parseFields h
      obtain ⟨raw', hraw', hdecode⟩ := decode_of_readField hkey
      rw [hwords] at hwords'
      simp only [List.cons.injEq] at hwords'
      obtain ⟨rfl, rfl, -⟩ := hwords'
      obtain rfl : raw = raw' := Except.ok.inj (hraw.symm.trans hraw')
      rw [← halgorithm] at hnot hsignature
      refine absurd ((beginsWith_algorithm_iff hdecode).2 ?_) hnot
      intro name hname hbegins
      exact hsignature (algorithm_of_beginsWith_signature hdecode hname hbegins) name hname hbegins

/-- A line that declares `ssh-rsa` is read although its blob names an RSA signature. -/
theorem parseFields_signature_name :
    let s := "ssh-rsa AAAADHJzYS1zaGEyLTUxMgAAAAMBAAEAAAADAP8B".toList
    let raw : List UInt8 := [0, 0, 0, 12, 0x72, 0x73, 0x61, 0x2d, 0x73, 0x68, 0x61, 0x32, 0x2d, 0x35,
      0x31, 0x32, 0, 0, 0, 3, 1, 0, 1, 0, 0, 0, 3, 0, 255, 1]
    (∃ k, parseFields s = .ok k ∧ k.algorithm = "ssh-rsa") ∧
      (words s)[1]?.map (fun field => Base64.decode (bytes (String.ofList field))) =
        some (.ok raw) ∧
      BeginsWith "rsa-sha2-512" raw ∧ ¬ BeginsWith "ssh-rsa" raw := by
  intro s raw
  refine ⟨?_, ?_, by decide, by decide⟩
  · have hread : parseFields s = .ok ⟨"ssh-rsa", [0, 0, 0, 7, 0x73, 0x73, 0x68, 0x2d, 0x72, 0x73,
        0x61, 0, 0, 0, 3, 1, 0, 1, 0, 0, 0, 3, 0, 255, 1], none⟩ :=
      ok_of_toOption (by decide +kernel)
    exact ⟨_, hread, rfl⟩
  · have hwords : (words s)[1]? = some "AAAADHJzYS1zaGEyLTUxMgAAAAMBAAEAAAADAP8B".toList := by
      decide +kernel
    have hraw : Base64.decode (bytes "AAAADHJzYS1zaGEyLTUxMgAAAAMBAAEAAAADAP8B") = .ok raw :=
      ok_of_toOption (by decide +kernel)
    rw [hwords, Option.map_some, String.ofList_toList, hraw]

end AuthorizedKey

end Gatehouse
