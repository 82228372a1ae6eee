/-! # Base64

    Bytes as text over an alphabet of 64 symbols: three bytes make a group of four symbols.
    `encode` writes the standard alphabet, with or without padding.

    `decode` reads a text group by group.  Every group may be padded, also one in the
    middle; the first group that is not well formed decides the error, and the error says
    where: positions count bytes of the text from zero.

    Core Lean 4 only. -/

namespace Gatehouse.Base64

/-! ## The alphabet -/

/-- The symbol of a six-bit number. -/
def symbol (n : Nat) : Char :=
  if n < 26 then Char.ofNat (n + 65)
  else if n < 52 then Char.ofNat (n + 71)
  else if n < 62 then Char.ofNat (n - 4)
  else if n = 62 then '+' else '/'

/-- The six-bit number of a symbol. -/
def value? (b : UInt8) : Option Nat :=
  let n := b.toNat
  if 65 ≤ n ∧ n ≤ 90 then some (n - 65)
  else if 97 ≤ n ∧ n ≤ 122 then some (n - 71)
  else if 48 ≤ n ∧ n ≤ 57 then some (n + 4)
  else if n = 43 then some 62
  else if n = 47 then some 63
  else none

/-- Reading a symbol back gives its number. -/
theorem value?_symbol : ∀ n : Fin 64, value? (symbol n).toUInt8 = some n.val := by decide

/-! ## Writing -/

/-- Whether the last group is filled up to four characters. -/
inductive Padding where
  | padded
  | unpadded
  deriving DecidableEq, Repr

def Padding.fill : Padding → Nat → List Char
  | .padded, n   => List.replicate n '='
  | .unpadded, _ => []

/-- The symbols of a byte string. -/
def encode (padding : Padding) : List UInt8 → List Char
  | []  => []
  | [a] =>
    let n := a.toNat * 16
    symbol (n / 64) :: symbol (n % 64) :: padding.fill 2
  | [a, b] =>
    let n := (a.toNat * 256 + b.toNat) * 4
    symbol (n / 4096) :: symbol (n / 64 % 64) :: symbol (n % 64) :: padding.fill 1
  | a :: b :: c :: rest =>
    let n := (a.toNat * 256 + b.toNat) * 256 + c.toNat
    symbol (n / 262144) :: symbol (n / 4096 % 64) :: symbol (n / 64 % 64) :: symbol (n % 64)
      :: encode padding rest

/-! ## Reading -/

inductive Fault where
  /-- A byte outside the alphabet. -/
  | symbol (position : Nat)
  /-- A group with fewer than two symbols. -/
  | padding (position : Nat)
  /-- The last symbol of a padded group carries bits that belong to no byte. -/
  | trailingBits (position : Nat)
  /-- One to three bytes after the last group. -/
  | length (position : Nat)
  deriving DecidableEq, Repr

def Fault.message : Fault → String
  | .symbol p       => "invalid symbol at " ++ toString p
  | .padding p      => "invalid padding length at " ++ toString p
  | .trailingBits p => "non-zero trailing bits at " ++ toString p
  | .length p       => "invalid length at " ++ toString p

/-- The padding character. -/
def pad : UInt8 := 61

/-- The numbers of the symbols, if all are in the alphabet; the first comes from `position`. -/
def values (position : Nat) : List UInt8 → Except Fault (List Nat)
  | []        => .ok []
  | b :: rest =>
    match value? b with
    | none   => .error (.symbol position)
    | some n => (values (position + 1) rest).map (n :: ·)

/-- The bytes of one group, whose first byte stands at `position`. -/
def decodeGroup (position : Nat) (group : List UInt8) : Except Fault (List UInt8) :=
  let symbols := (group.reverse.dropWhile (· == pad)).reverse
  match values position symbols with
  | .error e          => .error e
  | .ok [a, b, c, d]  =>
    let n := ((a * 64 + b) * 64 + c) * 64 + d
    .ok [UInt8.ofNat (n / 65536), UInt8.ofNat (n / 256), UInt8.ofNat n]
  | .ok [a, b, c]     =>
    let n := (a * 64 + b) * 64 + c
    if n % 4 = 0 then .ok [UInt8.ofNat (n / 1024), UInt8.ofNat (n / 4)]
    else .error (.trailingBits (position + 2))
  | .ok [a, b]        =>
    let n := a * 64 + b
    if n % 16 = 0 then .ok [UInt8.ofNat (n / 16)]
    else .error (.trailingBits (position + 1))
  | .ok few           => .error (.padding (position + few.length))

/-- Reads the groups from `position` on; `decoded` holds the bytes before them, last first. -/
def decodeFrom (position : Nat) (decoded : List UInt8) : List UInt8 → Except Fault (List UInt8)
  | []                     => .ok decoded.reverse
  | a :: b :: c :: d :: rest =>
    match decodeGroup position [a, b, c, d] with
    | .error e => .error e
    | .ok more => decodeFrom (position + 4) (more.reverse ++ decoded) rest
  | _                      => .error (.length position)

/-- The bytes that a text of symbols stands for. -/
def decode (text : List UInt8) : Except Fault (List UInt8) := decodeFrom 0 [] text

end Gatehouse.Base64
