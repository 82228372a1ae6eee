/-! # The SHA-256 digest

    The digest of a byte string as the Secure Hash Standard defines it: the string is padded
    to blocks of 64 bytes, each block is mixed into a state of eight words, and the last
    state is the digest.

    `sha256_length` says that a digest has 32 bytes whatever the message.

    Core Lean 4 only. -/

namespace Gatehouse.Digest

/-! ## State and words -/

/-- The chaining state: eight words. -/
structure State where
  a : UInt32
  b : UInt32
  c : UInt32
  d : UInt32
  e : UInt32
  f : UInt32
  g : UInt32
  h : UInt32
  deriving DecidableEq, Repr

def initial : State :=
  ⟨0x6a09e667, 0xbb67ae85, 0x3c6ef372, 0xa54ff53a, 0x510e527f, 0x9b05688c, 0x1f83d9ab, 0x5be0cd19⟩

/-- One constant a round. -/
def constants : List UInt32 := [
  0x428a2f98, 0x71374491, 0xb5c0fbcf, 0xe9b5dba5, 0x3956c25b, 0x59f111f1, 0x923f82a4, 0xab1c5ed5,
  0xd807aa98, 0x12835b01, 0x243185be, 0x550c7dc3, 0x72be5d74, 0x80deb1fe, 0x9bdc06a7, 0xc19bf174,
  0xe49b69c1, 0xefbe4786, 0x0fc19dc6, 0x240ca1cc, 0x2de92c6f, 0x4a7484aa, 0x5cb0a9dc, 0x76f988da,
  0x983e5152, 0xa831c66d, 0xb00327c8, 0xbf597fc7, 0xc6e00bf3, 0xd5a79147, 0x06ca6351, 0x14292967,
  0x27b70a85, 0x2e1b2138, 0x4d2c6dfc, 0x53380d13, 0x650a7354, 0x766a0abb, 0x81c2c92e, 0x92722c85,
  0xa2bfe8a1, 0xa81a664b, 0xc24b8b70, 0xc76c51a3, 0xd192e819, 0xd6990624, 0xf40e3585, 0x106aa070,
  0x19a4c116, 0x1e376c08, 0x2748774c, 0x34b0bcb5, 0x391c0cb3, 0x4ed8aa4a, 0x5b9cca4f, 0x682e6ff3,
  0x748f82ee, 0x78a5636f, 0x84c87814, 0x8cc70208, 0x90befffa, 0xa4506ceb, 0xbef9a3f7, 0xc67178f2]

def rotateRight (x n : UInt32) : UInt32 := (x >>> n) ||| (x <<< (32 - n))

/-- The four bytes of a word, highest first. -/
def wordBytes (w : UInt32) : List UInt8 :=
  [(w >>> 24).toUInt8, (w >>> 16).toUInt8, (w >>> 8).toUInt8, w.toUInt8]

/-- Four bytes a word, highest first. -/
def toWords : List UInt8 → List UInt32
  | a :: b :: c :: d :: rest =>
    ((a.toUInt32 <<< 24) ||| (b.toUInt32 <<< 16) ||| (c.toUInt32 <<< 8) ||| d.toUInt32)
      :: toWords rest
  | _ => []

/-! ## One block -/

/-- The word sixteen places after the first of the window. -/
def nextWord (window : List UInt32) : UInt32 :=
  let early := window.getD 1 0
  let late  := window.getD 14 0
  let s₀ := rotateRight early 7 ^^^ rotateRight early 18 ^^^ (early >>> 3)
  let s₁ := rotateRight late 17 ^^^ rotateRight late 19 ^^^ (late >>> 10)
  window.headD 0 + s₀ + window.getD 9 0 + s₁

/-- One round: mixes a constant and a word of the schedule into the state. -/
def round (s : State) (constant word : UInt32) : State :=
  let s₁ := rotateRight s.e 6 ^^^ rotateRight s.e 11 ^^^ rotateRight s.e 25
  let choice := (s.e &&& s.f) ^^^ (~~~s.e &&& s.g)
  let t₁ := s.h + s₁ + choice + constant + word
  let s₀ := rotateRight s.a 2 ^^^ rotateRight s.a 13 ^^^ rotateRight s.a 22
  let majority := (s.a &&& s.b) ^^^ (s.a &&& s.c) ^^^ (s.b &&& s.c)
  ⟨t₁ + (s₀ + majority), s.a, s.b, s.c, s.d + t₁, s.e, s.f, s.g⟩

/-- All rounds; the window holds the next sixteen words of the schedule. -/
def rounds (s : State) (window : List UInt32) : State :=
  (constants.foldl (fun (s, window) constant =>
    (round s constant (window.headD 0), window.tail ++ [nextWord window])) (s, window)).1

/-- Mixes one block into the state. -/
def compress (s : State) (block : List UInt8) : State :=
  let t := rounds s (toWords block)
  ⟨s.a + t.a, s.b + t.b, s.c + t.c, s.d + t.d, s.e + t.e, s.f + t.f, s.g + t.g, s.h + t.h⟩

/-! ## The whole message -/

/-- What follows a message of the given length: a set bit, zeros, and the length in bits. -/
def padding (length : Nat) : List UInt8 :=
  0x80 :: List.replicate ((119 - length % 64) % 64) 0
    ++ (List.range 8).reverse.map fun i => UInt8.ofNat (length * 8 / Nat.pow 256 i)

/-- Mixes the blocks into the state one after another. -/
def absorb (s : State) : List UInt8 → State
  | []      => s
  | b :: bs => absorb (compress s (b :: bs.take 63)) (bs.drop 63)
termination_by bs => bs.length
decreasing_by simp only [List.length_drop, List.length_cons]; omega

/-- The eight words of a state as bytes. -/
def State.bytes (s : State) : List UInt8 :=
  [s.a, s.b, s.c, s.d, s.e, s.f, s.g, s.h].flatMap wordBytes

/-- The digest of a byte string. -/
def sha256 (message : List UInt8) : List UInt8 :=
  (absorb initial (message ++ padding message.length)).bytes

/-- A digest has 32 bytes. -/
theorem sha256_length (message : List UInt8) : (sha256 message).length = 32 := by
  simp [sha256, State.bytes, wordBytes]

end Gatehouse.Digest
