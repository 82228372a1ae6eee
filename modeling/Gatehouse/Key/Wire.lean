import Gatehouse.Text.Utf8

/-! # The wire form of keys

    Keys travel as byte strings built from one piece: a *string* is a 32-bit length, highest
    byte first, and then that many bytes.  A label is a short string of text; a multiple
    precision integer is a string without an unnecessary leading zero.

    Each reader takes the bytes still to be read and returns what it read and the bytes
    after it.  Each `read…_write…` lemma says that a reader undoes its writer whatever
    follows. -/

namespace Gatehouse.Key

/-! ## What can be wrong with a key blob -/

inductive BlobFault where
  /-- A length beyond `maxLength`. -/
  | overflow
  /-- Too few bytes, or a string of the wrong length. -/
  | length
  /-- Text that is not UTF-8. -/
  | characterEncoding
  /-- A name of no algorithm or curve. -/
  | label (name : String)
  /-- An algorithm, a curve or a form of point that does not fit the rest. -/
  | unknownAlgorithm
  /-- An integer with an unnecessary leading zero. -/
  | formatEncoding
  /-- Bytes that are no point of the curve's form. -/
  | pointEncoding
  /-- A curve that the kind of key does not allow. -/
  | cryptographic
  deriving DecidableEq, Repr

def BlobFault.message : BlobFault → String
  | .overflow          => "internal overflow error"
  | .length            => "length invalid"
  | .characterEncoding => "character encoding invalid"
  | .label name        => "invalid label: '" ++ name ++ "'"
  | .unknownAlgorithm  => "unknown algorithm"
  | .formatEncoding    => "format encoding error"
  | .pointEncoding     => "ECDSA encoding error: elliptic curve point encoding error"
  | .cryptographic     => "cryptographic error"

namespace Wire

/-- A reader returns what it read and the bytes after it. -/
abbrev Read (α : Type) := List UInt8 → Except BlobFault (α × List UInt8)

/-- No length prefix exceeds this. -/
def maxLength : Nat := 0xfffff

/-- No name of an algorithm or curve is longer. -/
def maxLabel : Nat := 48

/-! ## Lengths -/

/-- A number below 2^32 in four bytes, highest first. -/
def writeLength (n : Nat) : List UInt8 :=
  [UInt8.ofNat (n / 16777216), UInt8.ofNat (n / 65536), UInt8.ofNat (n / 256), UInt8.ofNat n]

/-- A length of at most `maxLength`. -/
def readLength : Read Nat
  | a :: b :: c :: d :: rest =>
    let n := ((a.toNat * 256 + b.toNat) * 256 + c.toNat) * 256 + d.toNat
    if n ≤ maxLength then .ok (n, rest) else .error .overflow
  | _ => .error .length

theorem readLength_writeLength {n : Nat} (h : n ≤ maxLength) (rest : List UInt8) :
    readLength (writeLength n ++ rest) = .ok (n, rest) := by
  have h₁ : n < 16777216 := Nat.lt_of_le_of_lt h (by decide)
  have h₂ : ((n / 16777216 % 256 * 256 + n / 65536 % 256) * 256 + n / 256 % 256) * 256 + n % 256 = n := by
    omega
  simp [writeLength, readLength, h₂, h]

/-- The next `n` bytes. -/
def readBytes (n : Nat) : Read (List UInt8) := fun s =>
  let front := s.take n
  if front.length = n then .ok (front, s.drop n) else .error .length

theorem readBytes_append (front rest : List UInt8) :
    readBytes front.length (front ++ rest) = .ok (front, rest) := by
  simp [readBytes]

/-! ## Strings -/

def writeString (s : List UInt8) : List UInt8 := writeLength s.length ++ s

/-- A string of at most `bound` bytes. -/
def readShort (bound : Nat) : Read (List UInt8) := fun s =>
  match readLength s with
  | .error e      => .error e
  | .ok (n, rest) => if n ≤ bound then readBytes n rest else .error .length

/-- A string. -/
def readString : Read (List UInt8) := readShort maxLength

theorem readShort_writeString {bound : Nat} {s : List UInt8} (h : s.length ≤ bound)
    (hmax : s.length ≤ maxLength) (rest : List UInt8) :
    readShort bound (writeString s ++ rest) = .ok (s, rest) := by
  simp [readShort, writeString, readLength_writeLength hmax, h, readBytes_append]

theorem readString_writeString {s : List UInt8} (h : s.length ≤ maxLength) (rest : List UInt8) :
    readString (writeString s ++ rest) = .ok (s, rest) :=
  readShort_writeString h h rest

/-! ## Text -/

def writeText (s : String) : List UInt8 := writeString (Text.bytes s)

/-- A string of at most `bound` bytes that is UTF-8. -/
def readShortText (bound : Nat) : Read String := fun s =>
  match readShort bound s with
  | .error e      => .error e
  | .ok (b, rest) =>
    match Text.ofBytes? b with
    | none   => .error .characterEncoding
    | some t => .ok (t, rest)

/-- The name of an algorithm or a curve. -/
def readLabel : Read String := readShortText maxLabel

/-- A string that is UTF-8. -/
def readText : Read String := readShortText maxLength

theorem readShortText_writeText {bound : Nat} {s : String} (h : (Text.bytes s).length ≤ bound)
    (hmax : (Text.bytes s).length ≤ maxLength) (rest : List UInt8) :
    readShortText bound (writeText s ++ rest) = .ok (s, rest) := by
  simp [readShortText, writeText, readShort_writeString h hmax]

/-! ## Integers -/

/-- An integer begins with a zero byte only to keep a set sign bit from the front. -/
def isCanonical : List UInt8 → Bool
  | [0]        => false
  | 0 :: b :: _ => 0x80 ≤ b
  | _          => true

/-- A multiple precision integer, as its bytes. -/
def readInteger : Read (List UInt8) := fun s =>
  match readString s with
  | .error e      => .error e
  | .ok (b, rest) => if isCanonical b then .ok (b, rest) else .error .formatEncoding

theorem readInteger_writeString {s : List UInt8} (h : s.length ≤ maxLength)
    (hc : isCanonical s = true) (rest : List UInt8) :
    readInteger (writeString s ++ rest) = .ok (s, rest) := by
  simp [readInteger, readString_writeString h, hc]

end Wire

end Gatehouse.Key
