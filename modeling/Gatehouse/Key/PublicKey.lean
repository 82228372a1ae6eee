import Gatehouse.Key.Wire

/-! # Public keys

    A key blob begins with the name of its algorithm; what follows depends on the name.
    `PublicKey.decode` reads a blob and ignores what stands after the key;
    `PublicKey.encode` writes the one canonical blob of a key, which is the form in which
    keys are stored and compared.

    The three names of the RSA algorithm are one kind of key and are written as one name. -/

namespace Gatehouse.Key

/-! ## Curves and points -/

/-- The curves of ECDSA keys. -/
inductive Curve where
  | nistp256
  | nistp384
  | nistp521
  deriving DecidableEq, Repr

namespace Curve

def name : Curve → String
  | .nistp256 => "nistp256"
  | .nistp384 => "nistp384"
  | .nistp521 => "nistp521"

/-- The number of bytes of a coordinate. -/
def size : Curve → Nat
  | .nistp256 => 32
  | .nistp384 => 48
  | .nistp521 => 66

def ofName? : String → Option Curve
  | "nistp256" => some .nistp256
  | "nistp384" => some .nistp384
  | "nistp521" => some .nistp521
  | _          => none

/-- The curve whose coordinates have `n` bytes. -/
def ofSize? : Nat → Option Curve
  | 32 => some .nistp256
  | 48 => some .nistp384
  | 66 => some .nistp521
  | _  => none

theorem ofName?_name (c : Curve) : ofName? c.name = some c := by cases c <;> rfl

end Curve

/-- The form of a point is told by its first byte. -/
inductive PointForm where
  | identity
  | compressed
  | uncompressed
  | compact
  deriving DecidableEq, Repr

/-- The form that a point's first byte announces. -/
def PointForm.ofTag? (tag : UInt8) : Option PointForm :=
  if tag = 0 then some .identity
  else if tag = 2 ∨ tag = 3 then some .compressed
  else if tag = 4 then some .uncompressed
  else if tag = 5 then some .compact
  else none

/-- The number of bytes of a point, tag included, on a curve with coordinates of `n` bytes. -/
def PointForm.length (n : Nat) : PointForm → Nat
  | .identity     => 1
  | .compressed   => 1 + n
  | .uncompressed => 1 + 2 * n
  | .compact      => 1 + n

/-- The curve to which a point belongs by its form and length.  Whether the point lies on
    it is not asked. -/
def pointCurve : List UInt8 → Except BlobFault Curve
  | []            => .error .length
  | tag :: coords => do
    let size ← match PointForm.ofTag? tag with
      | none               => .error .pointEncoding
      | some .compressed   => .ok coords.length
      | some .uncompressed => .ok (coords.length / 2)
      | some _             => .error .unknownAlgorithm
    match Curve.ofSize? size with
    | none       => .error .length
    | some curve =>
      -- Only an uncompressed point of odd length fails here.
      if tag = 4 ∧ coords.length ≠ 2 * curve.size then .error .pointEncoding else .ok curve

/-- Is this a point of any form on a curve with coordinates of `n` bytes? -/
def isPoint (n : Nat) : List UInt8 → Bool
  | []            => false
  | tag :: coords =>
    match PointForm.ofTag? tag with
    | none      => false
    | some form => coords.length + 1 == form.length n

/-! ## Keys -/

/-- A public key of one of the known kinds, or one that is only known by name. -/
inductive PublicKey where
  | dsa (p q g y : List UInt8)
  | rsa (e n : List UInt8)
  | ecdsa (curve : Curve) (point : List UInt8)
  | ed25519 (key : List UInt8)
  | securityEcdsa (point : List UInt8) (application : String)
  | securityEd25519 (key : List UInt8) (application : String)
  | other (algorithm : String) (key : List UInt8)
  deriving DecidableEq, Repr

namespace PublicKey

/-- The kinds of key that are told apart by name. -/
inductive Kind where
  | dsa
  | rsa
  | ecdsa (curve : Curve)
  | ed25519
  | securityEcdsa
  | securityEd25519
  | other (algorithm : String)
  deriving DecidableEq, Repr

/-- A name of a key that is not known otherwise: ASCII, and one `@` with text on both sides. -/
def isDomainName (name : String) : Bool :=
  let chars := name.toList
  chars.all (·.toNat < 128)
    && match chars.dropWhile (· != '@') with
       | []          => false
       | _ :: domain => chars.head? != some '@' && !domain.isEmpty && !domain.contains '@'

/-- The kind of key that a name announces. -/
def Kind.ofName? : String → Option Kind
  | "ssh-dss"                            => some .dsa
  | "ssh-rsa"                            => some .rsa
  | "rsa-sha2-256"                       => some .rsa
  | "rsa-sha2-512"                       => some .rsa
  | "ecdsa-sha2-nistp256"                => some (.ecdsa .nistp256)
  | "ecdsa-sha2-nistp384"                => some (.ecdsa .nistp384)
  | "ecdsa-sha2-nistp521"                => some (.ecdsa .nistp521)
  | "ssh-ed25519"                        => some .ed25519
  | "sk-ecdsa-sha2-nistp256@openssh.com" => some .securityEcdsa
  | "sk-ssh-ed25519@openssh.com"         => some .securityEd25519
  | name                                 => if isDomainName name then some (.other name) else none

/-- The name under which a kind of key is written. -/
def Kind.name : Kind → String
  | .dsa             => "ssh-dss"
  | .rsa             => "ssh-rsa"
  | .ecdsa curve     => "ecdsa-sha2-" ++ curve.name
  | .ed25519         => "ssh-ed25519"
  | .securityEcdsa   => "sk-ecdsa-sha2-nistp256@openssh.com"
  | .securityEd25519 => "sk-ssh-ed25519@openssh.com"
  | .other name      => name

def kind : PublicKey → Kind
  | .dsa ..             => .dsa
  | .rsa ..             => .rsa
  | .ecdsa curve _      => .ecdsa curve
  | .ed25519 _          => .ed25519
  | .securityEcdsa ..   => .securityEcdsa
  | .securityEd25519 .. => .securityEd25519
  | .other name _       => .other name

/-- The name of the key's algorithm. -/
def algorithm (k : PublicKey) : String := k.kind.name

/-! ## Reading -/

open Wire

/-- The 32 bytes of an Ed25519 key.  A longer announced length is accepted, and the
    reader then stands after the 32 bytes all the same. -/
def readEd25519 : Read (List UInt8) := fun s => do
  let (n, rest) ← readLength s
  if n < 32 then .error .length else readBytes 32 rest

/-- The name of a curve. -/
def readCurve : Read Curve := fun s => do
  let (name, rest) ← readLabel s
  match Curve.ofName? name with
  | none       => .error (.label name)
  | some curve => .ok (curve, rest)

/-- What follows the name in the blob of a key. -/
def readBody : Kind → Read PublicKey
  | .dsa, s => do
    let (p, s) ← readInteger s
    let (q, s) ← readInteger s
    let (g, s) ← readInteger s
    let (y, s) ← readInteger s
    .ok (.dsa p q g y, s)
  | .rsa, s => do
    let (e, s) ← readInteger s
    let (n, s) ← readInteger s
    .ok (.rsa e n, s)
  | .ecdsa expected, s => do
    let (curve, s) ← readCurve s
    let (point, s) ← readShort 133 s
    let actual ← pointCurve point
    if actual = curve ∧ curve = expected then .ok (.ecdsa curve point, s)
    else .error .unknownAlgorithm
  | .ed25519, s => do
    let (key, s) ← readEd25519 s
    .ok (.ed25519 key, s)
  | .securityEcdsa, s => do
    let (curve, s) ← readCurve s
    if curve ≠ .nistp256 then .error .cryptographic
    else
      let (point, s) ← readShort 65 s
      if isPoint 32 point then
        let (application, s) ← readText s
        .ok (.securityEcdsa point application, s)
      else .error .pointEncoding
  | .securityEd25519, s => do
    let (key, s) ← readEd25519 s
    let (application, s) ← readText s
    .ok (.securityEd25519 key application, s)
  | .other name, s => do
    let (key, s) ← readString s
    .ok (.other name key, s)

/-- The key that a blob begins with. -/
def decode (blob : List UInt8) : Except BlobFault PublicKey := do
  let (name, rest) ← readLabel blob
  match Kind.ofName? name with
  | none      => .error (.label name)
  | some kind =>
    let (key, _) ← readBody kind rest
    .ok key

/-! ## Writing -/

/-- What follows the name in the canonical blob of a key. -/
def body : PublicKey → List UInt8
  | .dsa p q g y                     => writeString p ++ writeString q ++ writeString g ++ writeString y
  | .rsa e n                         => writeString e ++ writeString n
  | .ecdsa curve point               => writeText curve.name ++ writeString point
  | .ed25519 key                     => writeString key
  | .securityEcdsa point application =>
    writeText Curve.nistp256.name ++ writeString point ++ writeText application
  | .securityEd25519 key application => writeString key ++ writeText application
  | .other _ key                     => writeString key

/-- The canonical blob of a key. -/
def encode (k : PublicKey) : List UInt8 := writeText k.algorithm ++ k.body

end PublicKey

end Gatehouse.Key
