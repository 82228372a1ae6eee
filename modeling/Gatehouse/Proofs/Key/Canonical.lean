import Gatehouse.Key.PublicKey
import Gatehouse.Proofs.Result

/-! # Canonical blobs

    A blob that was read as a key may have been written in many ways: with another name of
    the same algorithm, with an announced length that is too long, with bytes after the
    key.  What was read is nevertheless written in one way only, and reading that gives
    the same key again (`decode_encode_of_decode`).

    The way there is a predicate on keys: `PublicKey.IsCanonical` says that the name and
    every part of a key fit their readers.  Reading only yields such keys
    (`isCanonical_of_decode`), and such keys are read back (`decode_encode`).

    Core Lean 4 only. -/

namespace Gatehouse

namespace Key

/-! ## Lengths of what was read -/

namespace Wire

theorem readLength_le {s r : List UInt8} {n : Nat} (h : readLength s = .ok (n, r)) :
    n ≤ maxLength := by
  unfold readLength at h
  split at h
  · simp only at h
    split at h
    · rename_i hle
      simp only [Except.ok.injEq, Prod.mk.injEq] at h
      exact h.1 ▸ hle
    · cases h
  · cases h

theorem length_of_readBytes {n : Nat} {s b r : List UInt8} (h : readBytes n s = .ok (b, r)) :
    b.length = n := by
  unfold readBytes at h
  simp only at h
  split at h
  · rename_i hlen
    simp only [Except.ok.injEq, Prod.mk.injEq] at h
    exact h.1 ▸ hlen
  · cases h

theorem length_of_readShort {bound : Nat} {s b r : List UInt8}
    (h : readShort bound s = .ok (b, r)) : b.length ≤ bound ∧ b.length ≤ maxLength := by
  unfold readShort at h
  split at h
  · cases h
  · rename_i n rest hn
    split at h
    · rename_i hle
      rw [length_of_readBytes h]
      exact ⟨hle, readLength_le hn⟩
    · cases h

theorem length_of_readShortText {bound : Nat} {s r : List UInt8} {t : String}
    (h : readShortText bound s = .ok (t, r)) :
    (Text.bytes t).length ≤ bound ∧ (Text.bytes t).length ≤ maxLength := by
  unfold readShortText at h
  split at h
  · cases h
  · rename_i b rest hb
    split at h
    · cases h
    · rename_i t' ht
      simp only [Except.ok.injEq, Prod.mk.injEq] at h
      obtain ⟨rfl, rfl⟩ := h
      rw [Text.bytes_of_ofBytes? ht]
      exact length_of_readShort hb

/-- The bytes of an integer as its reader takes them. -/
def IsInteger (b : List UInt8) : Prop := b.length ≤ maxLength ∧ isCanonical b = true

theorem isInteger_of_readInteger {s b r : List UInt8} (h : readInteger s = .ok (b, r)) :
    IsInteger b := by
  unfold readInteger at h
  split at h
  · cases h
  · rename_i b' rest hb
    split at h
    · rename_i hc
      simp only [Except.ok.injEq, Prod.mk.injEq] at h
      obtain ⟨rfl, rfl⟩ := h
      exact ⟨(length_of_readShort hb).1, hc⟩
    · cases h

theorem readInteger_of_isInteger {b : List UInt8} (h : IsInteger b) (rest : List UInt8) :
    readInteger (writeString b ++ rest) = .ok (b, rest) :=
  readInteger_writeString h.1 h.2 rest

end Wire

namespace PublicKey

open Wire

/-! ## Names of algorithms -/

/-- Whatever name a kind was found under, it is found under its own name too. -/
theorem Kind.ofName?_name {name : String} {kind : Kind} (h : Kind.ofName? name = some kind) :
    Kind.ofName? kind.name = some kind := by
  unfold Kind.ofName? at h
  split at h
  case h_11 =>
    split at h
    · rename_i hdomain
      cases h
      simp_all [Kind.ofName?, Kind.name]
    · cases h
  all_goals
    cases h
    rfl

/-- The own name of a kind is short if the name it was found under is. -/
theorem Kind.name_short {name : String} {kind : Kind} (h : Kind.ofName? name = some kind)
    (hname : (Text.bytes name).length ≤ maxLabel) :
    (Text.bytes kind.name).length ≤ maxLabel := by
  unfold Kind.ofName? at h
  split at h
  -- A name with a domain is kept; every other kind has its own, which is known.
  case h_11 =>
    split at h
    · cases h
      exact hname
    · cases h
  all_goals
    cases h
    decide

/-! ## Canonical keys -/

/-- Every part of the key fits its reader. -/
def PartsFit : PublicKey → Prop
  | .dsa p q g y                     => IsInteger p ∧ IsInteger q ∧ IsInteger g ∧ IsInteger y
  | .rsa e n                         => IsInteger e ∧ IsInteger n
  | .ecdsa curve point               => point.length ≤ 133 ∧ pointCurve point = .ok curve
  | .ed25519 key                     => key.length = 32
  | .securityEcdsa point application =>
    point.length ≤ 65 ∧ isPoint 32 point = true ∧ (Text.bytes application).length ≤ maxLength
  | .securityEd25519 key application =>
    key.length = 32 ∧ (Text.bytes application).length ≤ maxLength
  | .other _ key                     => key.length ≤ maxLength

/-- A key that its canonical blob gives back. -/
structure IsCanonical (k : PublicKey) : Prop where
  /-- The name under which the key is written announces its kind. -/
  named : Kind.ofName? k.algorithm = some k.kind
  short : (Text.bytes k.algorithm).length ≤ maxLabel
  parts : k.PartsFit

/-! ## What was read is canonical -/

theorem length_of_readEd25519 {s b r : List UInt8} (h : readEd25519 s = .ok (b, r)) :
    b.length = 32 := by
  obtain ⟨⟨n, rest⟩, -, h⟩ := ok_of_bind h
  simp only at h
  split at h
  · cases h
  · exact length_of_readBytes h

/-- The parts that were read fit, and belong to a key of the announced kind. -/
theorem partsFit_of_readBody {kind : Kind} {s r : List UInt8} {k : PublicKey}
    (h : readBody kind s = .ok (k, r)) : k.kind = kind ∧ k.PartsFit := by
  cases kind with
  | dsa =>
    obtain ⟨⟨p, s₁⟩, hp, h⟩ := ok_of_bind h
    obtain ⟨⟨q, s₂⟩, hq, h⟩ := ok_of_bind h
    obtain ⟨⟨g, s₃⟩, hg, h⟩ := ok_of_bind h
    obtain ⟨⟨y, s₄⟩, hy, h⟩ := ok_of_bind h
    cases h
    exact ⟨rfl, isInteger_of_readInteger hp, isInteger_of_readInteger hq,
      isInteger_of_readInteger hg, isInteger_of_readInteger hy⟩
  | rsa =>
    obtain ⟨⟨e, s₁⟩, he, h⟩ := ok_of_bind h
    obtain ⟨⟨n, s₂⟩, hn, h⟩ := ok_of_bind h
    cases h
    exact ⟨rfl, isInteger_of_readInteger he, isInteger_of_readInteger hn⟩
  | ecdsa expected =>
    obtain ⟨⟨curve, s₁⟩, -, h⟩ := ok_of_bind h
    obtain ⟨⟨point, s₂⟩, hpoint, h⟩ := ok_of_bind h
    obtain ⟨actual, hactual, h⟩ := ok_of_bind h
    -- The curve is named three times: by the kind, in the blob and by the point.
    split at h
    · rename_i hsame
      cases h
      obtain ⟨rfl, rfl⟩ := hsame
      exact ⟨rfl, (length_of_readShort hpoint).1, hactual⟩
    · cases h
  | ed25519 =>
    obtain ⟨⟨key, s₁⟩, hkey, h⟩ := ok_of_bind h
    cases h
    exact ⟨rfl, length_of_readEd25519 hkey⟩
  | securityEcdsa =>
    obtain ⟨⟨curve, s₁⟩, -, h⟩ := ok_of_bind h
    simp only at h
    split at h
    · cases h
    · obtain ⟨⟨point, s₂⟩, hpoint, h⟩ := ok_of_bind h
      simp only at h
      split at h
      · rename_i hform
        obtain ⟨⟨application, s₃⟩, happ, h⟩ := ok_of_bind h
        cases h
        exact ⟨rfl, (length_of_readShort hpoint).1, hform, (length_of_readShortText happ).1⟩
      · cases h
  | securityEd25519 =>
    obtain ⟨⟨key, s₁⟩, hkey, h⟩ := ok_of_bind h
    obtain ⟨⟨application, s₂⟩, happ, h⟩ := ok_of_bind h
    cases h
    exact ⟨rfl, length_of_readEd25519 hkey, (length_of_readShortText happ).1⟩
  | other name =>
    obtain ⟨⟨key, s₁⟩, hkey, h⟩ := ok_of_bind h
    cases h
    exact ⟨rfl, (length_of_readShort hkey).1⟩

theorem isCanonical_of_decode {blob : List UInt8} {k : PublicKey} (h : decode blob = .ok k) :
    k.IsCanonical := by
  obtain ⟨⟨name, rest⟩, hname, h⟩ := ok_of_bind h
  simp only at h
  split at h
  · cases h
  · rename_i kind hkind
    obtain ⟨⟨key, r⟩, hbody, h⟩ := ok_of_bind h
    cases h
    obtain ⟨rfl, hparts⟩ := partsFit_of_readBody hbody
    exact ⟨Kind.ofName?_name hkind, Kind.name_short hkind (length_of_readShortText hname).1,
      hparts⟩

/-! ## What is canonical is read back -/

theorem readEd25519_writeString {key : List UInt8} (h : key.length = 32) (rest : List UInt8) :
    readEd25519 (writeString key ++ rest) = .ok (key, rest) := by
  have hlength : readLength (writeString key ++ rest) = .ok (key.length, key ++ rest) := by
    rw [writeString, List.append_assoc]
    exact readLength_writeLength (by rw [h]; decide) _
  have hbytes := readBytes_append key rest
  rw [h] at hlength hbytes
  unfold readEd25519
  rw [hlength]
  exact hbytes

theorem readCurve_writeText (curve : Curve) (rest : List UInt8) :
    readCurve (writeText curve.name ++ rest) = .ok (curve, rest) := by
  have hname : readLabel (writeText curve.name ++ rest) = .ok (curve.name, rest) :=
    readShortText_writeText (by cases curve <;> decide) (by cases curve <;> decide) rest
  unfold readCurve
  rw [hname]
  simp only [bind, Except.bind, Curve.ofName?_name]

theorem readText_writeText {t : String} (h : (Text.bytes t).length ≤ maxLength)
    (rest : List UInt8) : readText (writeText t ++ rest) = .ok (t, rest) :=
  readShortText_writeText h h rest

/-- The body of a key is read back by the reader of its kind. -/
theorem readBody_body {k : PublicKey} (h : k.PartsFit) (rest : List UInt8) :
    readBody k.kind (k.body ++ rest) = .ok (k, rest) := by
  cases k with
  | dsa p q g y =>
    obtain ⟨hp, hq, hg, hy⟩ := h
    simp only [kind, readBody, body, List.append_assoc, readInteger_of_isInteger hp,
      readInteger_of_isInteger hq, readInteger_of_isInteger hg, readInteger_of_isInteger hy,
      bind, Except.bind]
  | rsa e n =>
    obtain ⟨he, hn⟩ := h
    simp only [kind, readBody, body, List.append_assoc, readInteger_of_isInteger he,
      readInteger_of_isInteger hn, bind, Except.bind]
  | ecdsa curve point =>
    obtain ⟨hlength, hcurve⟩ := h
    have hmax : point.length ≤ maxLength := Nat.le_trans hlength (by decide)
    simp only [kind, readBody, body, List.append_assoc, readCurve_writeText,
      readShort_writeString hlength hmax, hcurve, bind, Except.bind, and_self, if_true]
  | ed25519 key =>
    simp only [kind, readBody, body, readEd25519_writeString h, bind, Except.bind]
  | securityEcdsa point application =>
    obtain ⟨hlength, hform, happ⟩ := h
    have hmax : point.length ≤ maxLength := Nat.le_trans hlength (by decide)
    simp only [kind, readBody, body, List.append_assoc, readCurve_writeText,
      readShort_writeString hlength hmax, hform, readText_writeText happ, bind, Except.bind,
      ne_eq, not_true_eq_false, if_false, if_true]
  | securityEd25519 key application =>
    obtain ⟨hkey, happ⟩ := h
    simp only [kind, readBody, body, List.append_assoc, readEd25519_writeString hkey,
      readText_writeText happ, bind, Except.bind]
  | other name key =>
    simp only [kind, readBody, body, readString_writeString h, bind, Except.bind]

/-- A canonical key is read back from its blob, whatever follows. -/
theorem decode_encode {k : PublicKey} (h : k.IsCanonical) (rest : List UInt8) :
    decode (k.encode ++ rest) = .ok k := by
  have hlabel : readLabel (k.encode ++ rest) = .ok (k.algorithm, k.body ++ rest) := by
    rw [encode, List.append_assoc]
    exact readShortText_writeText h.short (Nat.le_trans h.short (by decide)) _
  unfold decode
  rw [hlabel]
  simp only [bind, Except.bind, h.named, readBody_body h.parts rest]

/-- Writing down what was read changes nothing in what is read. -/
theorem decode_encode_of_decode {blob : List UInt8} {k : PublicKey} (h : decode blob = .ok k) :
    decode k.encode = .ok k := by
  have hback := decode_encode (isCanonical_of_decode h) []
  rwa [List.append_nil] at hback

end PublicKey

end Key

end Gatehouse
