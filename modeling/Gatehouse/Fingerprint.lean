import Gatehouse.Base64
import Gatehouse.Digest

/-! # Fingerprints

    A key is named by its fingerprint, the digest of its canonical blob:

        SHA256:47DEQpj8HBSa+/TImW+5JCeuQeRkm5NMpJWZG3hSuFU

    Fingerprints that somebody wrote by hand are only looked at from afar: they have to
    begin like one and go on. -/

namespace Gatehouse.Fingerprint

/-- What every fingerprint begins with. -/
def stem : String := "SHA256:"

/-- The fingerprint of a key blob: its digest in unpadded base64. -/
def ofBlob (blob : List UInt8) : String :=
  stem ++ String.ofList (Base64.encode .unpadded (Digest.sha256 blob))

/-- Does the text look like a fingerprint: the stem and something after it? -/
def isPlausible (text : String) : Bool :=
  stem.toList.isPrefixOf text.toList && stem.length < text.length

end Gatehouse.Fingerprint
