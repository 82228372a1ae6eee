import Gatehouse.Json.Scalar

/-! # JSON as it is written

    One value can be written in many ways: with blanks around its parts, with the characters of
    a string spelled out, with the members of an object in any order.  A `Spelled` value records
    all these choices, and `bytes` writes it down as chosen.

    What can be written is what the grammar of JSON allows, and nothing is said here about
    readers.  The grammar allows half a pair of surrogates in a string; such a string says
    nothing (`chars?`).

    Core Lean 4 only. -/

namespace Gatehouse.Json

/-- Blanks in a row, or none. -/
structure Gap where
  bytes : List UInt8
  blank : ∀ b ∈ bytes, isSpace b = true

/-- No blank. -/
def Gap.empty : Gap := ⟨[], by simp⟩

/-! ## Strings -/

/-- The characters that a letter behind a backslash stands for. -/
inductive Escape where
  | quote
  | backslash
  | slash
  | backspace
  | formFeed
  | lineFeed
  | carriageReturn
  | tab
  deriving DecidableEq, Repr

namespace Escape

/-- What is written behind the backslash. -/
def letter : Escape → Char
  | quote          => '"'
  | backslash      => '\\'
  | slash          => '/'
  | backspace      => 'b'
  | formFeed       => 'f'
  | lineFeed       => 'n'
  | carriageReturn => 'r'
  | tab            => 't'

/-- What is meant. -/
def char : Escape → Char
  | quote          => '"'
  | backslash      => '\\'
  | slash          => '/'
  | backspace      => Char.ofNat 8
  | formFeed       => Char.ofNat 12
  | lineFeed       => Char.ofNat 10
  | carriageReturn => Char.ofNat 13
  | tab            => Char.ofNat 9

end Escape

/-- A hexadecimal digit, in either case. -/
structure HexDigit where
  value : Fin 16
  upper : Bool
  deriving DecidableEq, Repr

def HexDigit.char (d : HexDigit) : Char :=
  if d.upper then (Nat.digitChar d.value).toUpper else Nat.digitChar d.value

/-- Four digits, which write a code unit. -/
structure CodeUnit where
  first  : HexDigit
  second : HexDigit
  third  : HexDigit
  fourth : HexDigit
  deriving DecidableEq, Repr

namespace CodeUnit

def digits (u : CodeUnit) : List HexDigit := [u.first, u.second, u.third, u.fourth]

def number (u : CodeUnit) : Nat :=
  ((u.first.value * 16 + u.second.value) * 16 + u.third.value) * 16 + u.fourth.value

end CodeUnit

/-- What a string is made of between its quotes. -/
inductive Piece where
  /-- A character that stands for itself. -/
  | plain (c : Char) (h : c ≠ '"' ∧ c ≠ '\\' ∧ 0x20 ≤ c.toNat)
  | escape (e : Escape)
  | unit (u : CodeUnit)

namespace Piece

def bytes : Piece → List UInt8
  | plain c _ => String.utf8EncodeChar c
  | escape e  => [0x5c, e.letter.toUInt8]
  | unit u    => 0x5c :: 0x75 :: u.digits.map (·.char.toUInt8)

/-- The characters that pieces stand for.  A code unit is a character, unless it is half of a
    pair; then the other half has to follow. -/
def chars? : List Piece → Option (List Char)
  | []              => some []
  | plain c _ :: ps => (chars? ps).map (c :: ·)
  | escape e :: ps  => (chars? ps).map (e.char :: ·)
  | unit u :: ps    =>
    if isLow u.number then none
    else if isHigh u.number then
      match ps with
      | unit v :: ps =>
        if isLow v.number then (chars? ps).map (Char.ofNat (paired u.number v.number) :: ·)
        else none
      | _            => none
    else (chars? ps).map (Char.ofNat u.number :: ·)

/-- One way to spell a character: as itself if it can stand for itself. -/
def ofChar (c : Char) : Piece :=
  if h : c ≠ '"' ∧ c ≠ '\\' ∧ 0x20 ≤ c.toNat then .plain c h
  else .unit ⟨⟨0, false⟩, ⟨0, false⟩, ⟨Fin.ofNat 16 (c.toNat / 16), false⟩,
    ⟨Fin.ofNat 16 c.toNat, false⟩⟩

end Piece

/-! ## Numbers -/

/-- One or more decimal digits. -/
structure Figures where
  bytes   : List UInt8
  isDigit : ∀ b ∈ bytes, Json.isDigit b = true
  ne_nil  : bytes ≠ []

/-- A power of ten behind a number. -/
structure Exponent where
  letter    : UInt8
  letter_eq : letter = 0x65 ∨ letter = 0x45
  sign      : Option UInt8
  sign_eq   : ∀ b ∈ sign, b = 0x2b ∨ b = 0x2d
  power     : Figures

def Exponent.bytes (e : Exponent) : List UInt8 := e.letter :: e.sign.toList ++ e.power.bytes

structure Numeral where
  negative : Bool
  whole    : Figures
  /-- Nothing follows a zero in front. -/
  zero     : whole.bytes.head? = some 0x30 → whole.bytes = [0x30]
  fraction : Option Figures
  exponent : Option Exponent

def Numeral.bytes (n : Numeral) : List UInt8 :=
  (if n.negative then [0x2d] else []) ++ n.whole.bytes
    ++ (n.fraction.elim [] fun f => 0x2e :: f.bytes) ++ n.exponent.elim [] Exponent.bytes

/-! ## Values -/

/-- The key of a member and its colon, with the blanks around them. -/
structure Label where
  before      : Gap
  key         : List Piece
  beforeColon : Gap
  afterColon  : Gap

/-- What pieces say, if they stand for characters. -/
def Piece.text? (pieces : List Piece) : Option String := (chars? pieces).map String.ofList

/-- A string with its quotes. -/
def quotedBytes (pieces : List Piece) : List UInt8 := 0x22 :: pieces.flatMap Piece.bytes ++ [0x22]

def Label.bytes (l : Label) : List UInt8 :=
  l.before.bytes ++ quotedBytes l.key ++ l.beforeColon.bytes ++ 0x3a :: l.afterColon.bytes

/-- A value as it is written.  An element of an array stands between two gaps, a member of an
    object between its label and a gap. -/
inductive Spelled where
  | null
  | boolean (b : Bool)
  | number (n : Numeral)
  | string (pieces : List Piece)
  | array (gap : Gap) (elements : List (Gap × Spelled × Gap))
  | object (gap : Gap) (members : List (Label × Spelled × Gap))

namespace Spelled

mutual

def bytes : Spelled → List UInt8
  | null              => "null".toList.map Char.toUInt8
  | boolean true      => "true".toList.map Char.toUInt8
  | boolean false     => "false".toList.map Char.toUInt8
  | number n          => n.bytes
  | string pieces     => quotedBytes pieces
  | array gap es      => 0x5b :: gap.bytes ++ (elementsBytes es).tail ++ [0x5d]
  | object gap ms     => 0x7b :: gap.bytes ++ (membersBytes ms).tail ++ [0x7d]

/-- The elements of an array, each with a comma in front; the first comma is not written. -/
def elementsBytes : List (Gap × Spelled × Gap) → List UInt8
  | []              => []
  | (g, v, h) :: es => 0x2c :: g.bytes ++ v.bytes ++ h.bytes ++ elementsBytes es

/-- The members of an object, each with a comma in front; the first comma is not written. -/
def membersBytes : List (Label × Spelled × Gap) → List UInt8
  | []              => []
  | (l, v, h) :: ms => 0x2c :: l.bytes ++ v.bytes ++ h.bytes ++ membersBytes ms

end

/-- The text that a value says, if it is a string. -/
def text? : Spelled → Option String
  | string pieces => Piece.text? pieces
  | _             => none

end Spelled

/-- A text that holds one value. -/
structure Document where
  before : Gap
  value  : Spelled
  after  : Gap

def Document.bytes (d : Document) : List UInt8 :=
  d.before.bytes ++ d.value.bytes ++ d.after.bytes

end Gatehouse.Json
