import Gatehouse.Json.Fault
import Gatehouse.Text.Digit
import Gatehouse.Text.Utf8

/-! # Scalars of JSON texts

    Readers for what a JSON text is made of below arrays and objects: blanks, words, strings
    and numbers.

    A string is read byte by byte: `Spot` says where in a string or an escape the next byte
    stands.  A number keeps as many digits as 64 bits hold; only an integer of at most 64
    bits stays an integer, all other numbers are floats.

    Core Lean 4 only. -/

namespace Gatehouse.Json

/-! ## Blanks and words -/

/-- The four blanks that JSON knows. -/
def isSpace (b : UInt8) : Bool := b = 0x20 || b = 0x0a || b = 0x09 || b = 0x0d

def dropSpace (s : List UInt8) : List UInt8 := s.dropWhile isSpace

theorem dropSpace_length_le (s : List UInt8) : (dropSpace s).length ≤ s.length :=
  (List.dropWhile_sublist _).length_le

/-- The rest of a word whose first letter has been read. -/
def readWord : List Char → List UInt8 → Except Fault (List UInt8)
  | [], s              => .ok s
  | _ :: _, []         => .error (.before [] .endInValue)
  | c :: cs, b :: rest =>
    if Char.ofUInt8 b = c then readWord cs rest else .error (.before rest .expectedWord)

/-! ## Strings -/

/-- Where in a string the next byte stands. -/
inductive Spot where
  | plain
  /-- Right after a backslash. -/
  | escape
  /-- Among the four digits of an escape, of which those in `digits` have been read (last
      first); `high` is the first half of a pair of surrogates, if one came before. -/
  | hex (digits : List Char) (high : Option Nat)
  /-- Before the backslash of a second half. -/
  | secondBackslash (high : Nat)
  /-- Before the letter of a second half. -/
  | secondLetter (high : Nat)
  deriving DecidableEq, Repr

/-- The code unit is the first half of a pair of surrogates. -/
def isHigh (n : Nat) : Bool := 0xd800 ≤ n && n ≤ 0xdbff

/-- The code unit is the second half of a pair of surrogates. -/
def isLow (n : Nat) : Bool := 0xdc00 ≤ n && n ≤ 0xdfff

/-- The code point of a pair of surrogates. -/
def paired (high low : Nat) : Nat := 0x10000 + (high - 0xd800) * 1024 + (low - 0xdc00)

/-- What a letter after a backslash stands for. -/
def escapee? : Char → Option Char
  | '"'  => some '"'
  | '\\' => some '\\'
  | '/'  => some '/'
  | 'b'  => some '\x08'
  | 'f'  => some '\x0c'
  | 'n'  => some '\n'
  | 'r'  => some '\r'
  | 't'  => some '\t'
  | _    => none

/-- The bytes read, last first, with those of one more code point. -/
def push (n : Nat) (bytes : List UInt8) : List UInt8 :=
  (Text.bytes (String.singleton (Char.ofNat n))).reverse ++ bytes

/-- A string from the given spot on; `bytes` holds what was read of it, last first. -/
def readStringFrom : Spot → List UInt8 → Read String
  | _, _, []                        => .error (.before [] .endInString)
  | .plain, bytes, b :: rest        =>
    match Char.ofUInt8 b with
    | '"'  =>
      match Text.ofBytes? bytes.reverse with
      | some s => .ok (s, rest)
      | none   => .error (.before (b :: rest) .invalidCodePoint)
    | '\\' => readStringFrom .escape bytes rest
    | _    =>
      if b < 0x20 then .error (.before rest .controlCharacter)
      else readStringFrom .plain (b :: bytes) rest
  | .escape, bytes, b :: rest       =>
    match escapee? (Char.ofUInt8 b) with
    | some c => readStringFrom .plain (push c.toNat bytes) rest
    | none   =>
      if Char.ofUInt8 b = 'u' then readStringFrom (.hex [] none) bytes rest
      else .error (.before rest .invalidEscape)
  | .hex digits high, bytes, b :: rest =>
    let digits := Char.ofUInt8 b :: digits
    if digits.length < 4 then readStringFrom (.hex digits high) bytes rest
    else
      match Text.number? 16 digits.reverse, high with
      | none, _      => .error (.before rest .invalidEscape)
      | some n, none =>
        if isLow n then .error (.before rest .loneSurrogate)
        else if isHigh n then readStringFrom (.secondBackslash n) bytes rest
        else readStringFrom .plain (push n bytes) rest
      | some n, some high =>
        if isLow n then readStringFrom .plain (push (paired high n) bytes) rest
        else .error (.before rest .loneSurrogate)
  | .secondBackslash high, bytes, b :: rest =>
    if Char.ofUInt8 b = '\\' then readStringFrom (.secondLetter high) bytes rest
    else .error (.before rest .endOfHexEscape)
  | .secondLetter high, bytes, b :: rest =>
    if Char.ofUInt8 b = 'u' then readStringFrom (.hex [] (some high)) bytes rest
    else .error (.before rest .endOfHexEscape)

/-- A string whose opening quote has been read. -/
def readString : Read String := readStringFrom .plain []

theorem readStringFrom_length_lt {spot : Spot} {bytes s r : List UInt8} {t : String}
    (h : readStringFrom spot bytes s = .ok (t, r)) : r.length < s.length := by
  fun_induction readStringFrom spot bytes s <;> simp_all <;> omega

/-! ## Numbers -/

inductive Number where
  | integer (n : Int)
  | float (x : Float)

def isDigit (b : UInt8) : Bool := 0x30 ≤ b && b ≤ 0x39

/-- The greatest number of 64 bits. -/
def maxUInt64 : Nat := UInt64.size - 1

/-- Appends digits as long as 64 bits hold the number, and returns it with the number of
    digits left out. -/
def accumulate (n : Nat) : List UInt8 → Nat × Nat
  | []      => (n, 0)
  | d :: ds =>
    let m := n * 10 + (d.toNat - 0x30)
    if m ≤ maxUInt64 then accumulate m ds else (n, ds.length + 1)

/-- The float nearest to a power of ten. -/
def tenTo (e : Nat) : Float := Float.ofScientific 1 false e

/-- The greatest power of ten that is a float. -/
def maxTenTo : Nat := 308

/-- A float divided by a power of ten, in steps that floats can take. -/
def dividedBy (x : Float) (e : Nat) : Float :=
  if _h : e ≤ maxTenTo then x / tenTo e
  else if x == 0.0 then x
  else dividedBy (x / tenTo maxTenTo) (e - maxTenTo)
termination_by e
decreasing_by simp only [maxTenTo] at *; omega

/-- A float times a power of ten; nothing when it is too large. -/
def scaled? (x : Float) (e : Int) : Option Float :=
  if e < 0 then some (dividedBy x e.natAbs)
  else if e.natAbs ≤ maxTenTo then
    let y := x * tenTo e.natAbs
    if y.isInf then none else some y
  else if x == 0.0 then some x
  else none

/-- The float of a significand and a power of ten. -/
def toFloat (negative : Bool) (significand : Nat) (e : Int) (rest : List UInt8) : Read Number :=
  fun _ =>
    match scaled? (UInt64.ofNat significand).toFloat e with
    | none   => .error (.before rest .numberOutOfRange)
    | some x => .ok (.float (if negative then -x else x), rest)

/-- The greatest exponent that is told apart from a greater one. -/
def maxExponent : Nat := Nat.pow 2 31 - 1

/-- The digits after the first ones whose number is beyond `maxExponent`. -/
def afterOverflow (n : Nat) : List UInt8 → List UInt8
  | []      => []
  | d :: ds =>
    let m := n * 10 + (d.toNat - 0x30)
    if m ≤ maxExponent then afterOverflow m ds else ds

/-- The exponent of a number, of which `significand · 10 ^ e` has been read. -/
def readExponent (negative : Bool) (significand : Nat) (e : Int) : Read Number := fun s =>
  let (down, s) :=
    match s with
    | 0x2b :: rest => (false, rest)
    | 0x2d :: rest => (true, rest)
    | _            => (false, s)
  let digits := s.takeWhile isDigit
  let rest := s.dropWhile isDigit
  match s, digits with
  | [], _          => .error (.before [] .endInValue)
  | _ :: after, [] => .error (.before after .invalidNumber)
  | _, _           =>
    let n := digits.foldl (fun n d => n * 10 + (d.toNat - 0x30)) 0
    if n ≤ maxExponent then
      toFloat negative significand (if down then e - n else e + n) rest s
    else if significand ≠ 0 ∧ !down then
      .error (.before (afterOverflow 0 digits ++ rest) .numberOutOfRange)
    else .ok (.float (if negative then -0.0 else 0.0), rest)

/-- The places after the point of a number, of which `significand · 10 ^ dropped` has been
    read. -/
def readFraction (negative : Bool) (significand dropped : Nat) : Read Number := fun s =>
  let digits := s.takeWhile isDigit
  let rest := s.dropWhile isDigit
  if digits.isEmpty then
    .error (if s.isEmpty then .before [] .endInValue else .peeking s .invalidNumber)
  else
    let (significand, unused) := accumulate significand digits
    let e : Int := dropped - (digits.length - unused : Nat)
    match rest with
    | 0x65 :: after => readExponent negative significand e after
    | 0x45 :: after => readExponent negative significand e after
    | _             => toFloat negative significand e rest s

/-- The digits of a number after its sign. -/
def readUnsigned (negative : Bool) : Read Number := fun s =>
  match s with
  | []           => .error (.before [] .endInValue)
  | first :: after =>
    if !isDigit first then .error (.before after .invalidNumber)
    else if first = 0x30 ∧ after.head?.any isDigit then .error (.peeking after .invalidNumber)
    else
      let rest := s.dropWhile isDigit
      let (n, dropped) := accumulate 0 (s.takeWhile isDigit)
      match rest with
      | 0x2e :: after => readFraction negative n dropped after
      | 0x65 :: after => readExponent negative n dropped after
      | 0x45 :: after => readExponent negative n dropped after
      | _             =>
        if dropped ≠ 0 ∨ (negative ∧ (n = 0 ∨ Nat.pow 2 63 < n)) then
          toFloat negative n dropped rest s
        else .ok (.integer (if negative then -(n : Int) else n), rest)

/-- A number from its first character on. -/
def readNumber : Read Number
  | 0x2d :: rest => readUnsigned true rest
  | s            => readUnsigned false s

/-! ## Values of other kinds -/

/-- What stands where something else was expected.  Of an array or an object nothing is
    read. -/
def readFound : Read Found := fun s =>
  match s with
  | []        => .error (.before [] .endInValue)
  | b :: rest =>
    match Char.ofUInt8 b with
    | 'n'    => (readWord "ull".toList rest).map fun rest => (.null, rest)
    | 't'    => (readWord "rue".toList rest).map fun rest => (.boolean true, rest)
    | 'f'    => (readWord "alse".toList rest).map fun rest => (.boolean false, rest)
    | '"'    => (readString rest).map fun (t, rest) => (.string t, rest)
    | '['    => .ok (.sequence, s)
    | '\x7b' => .ok (.map, s)
    | c      =>
      if c = '-' ∨ isDigit b then
        match readNumber s with
        | .error e               => .error e
        | .ok (.integer n, rest) => .ok (.integer n, rest)
        | .ok (.float x, rest)   => .ok (.float x, rest)
      else .error (.peeking s .expectedValue)

/-- The complaint about a value that is not what was expected. -/
def mismatch {α : Type} (expected : String) : Read α := fun s =>
  match readFound s with
  | .error e          => .error e
  | .ok (found, rest) => .error (.shape rest (.invalidType found expected))

/-- A string, after blanks. -/
def readText : Read String := fun s =>
  match dropSpace s with
  | []        => .error (.before [] .endInValue)
  | b :: rest => if Char.ofUInt8 b = '"' then readString rest else mismatch "a string" (b :: rest)

theorem readText_length_lt {s r : List UInt8} {t : String} (h : readText s = .ok (t, r)) :
    r.length < s.length := by
  unfold readText at h
  have hs := dropSpace_length_le s
  split at h
  · simp at h
  · rename_i b rest hd
    rw [hd, List.length_cons] at hs
    split at h
    · exact Nat.lt_of_lt_of_le (readStringFrom_length_lt h) (Nat.le_of_succ_le hs)
    · unfold mismatch at h
      split at h <;> simp at h

end Gatehouse.Json
