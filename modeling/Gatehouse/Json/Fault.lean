import Gatehouse.Shape

/-! # Faults of JSON texts

    A text may fail to be JSON, and JSON may fail to be what is asked for.  A `Fault` says
    which of the two, in which member of the record being read it was found, and where
    reading stopped: as the number of bytes not yet read.  Lines and columns are counted
    only when the fault is told.

    Core Lean 4 only. -/

namespace Gatehouse.Json

/-- Why a text is not JSON. -/
inductive Malformed where
  | endInValue
  | endInObject
  | endInList
  | endInString
  | expectedValue
  /-- A word that is none of `null`, `true` and `false`. -/
  | expectedWord
  | expectedColon
  | expectedCommaOrBrace
  | expectedCommaOrBracket
  | trailingComma
  | trailingCharacters
  /-- A member of an object does not start with a string. -/
  | keyNotString
  | invalidNumber
  /-- A number too large for a float. -/
  | numberOutOfRange
  | invalidEscape
  | endOfHexEscape
  | loneSurrogate
  | controlCharacter
  /-- Bytes that are not UTF-8. -/
  | invalidCodePoint
  deriving DecidableEq, Repr

def Malformed.message : Malformed → String
  | .endInValue             => "EOF while parsing a value"
  | .endInObject            => "EOF while parsing an object"
  | .endInList              => "EOF while parsing a list"
  | .endInString            => "EOF while parsing a string"
  | .expectedValue          => "expected value"
  | .expectedWord           => "expected ident"
  | .expectedColon          => "expected `:`"
  | .expectedCommaOrBrace   => "expected `,` or `\x7d`"
  | .expectedCommaOrBracket => "expected `,` or `]`"
  | .trailingComma          => "trailing comma"
  | .trailingCharacters     => "trailing characters"
  | .keyNotString           => "key must be a string"
  | .invalidNumber          => "invalid number"
  | .numberOutOfRange       => "number out of range"
  | .invalidEscape          => "invalid escape"
  | .endOfHexEscape         => "unexpected end of hex escape"
  | .loneSurrogate          => "lone leading surrogate in hex escape"
  | .controlCharacter       => "control character (\\u0000-\\u001F) found while parsing a string"
  | .invalidCodePoint       => "invalid unicode code point"

inductive Cause where
  | malformed (m : Malformed)
  | shape (e : ShapeError)

def Cause.message : Cause → String
  | .malformed m => m.message
  | .shape e     => e.message .json

/-- The member of a record in which a fault lies. -/
inductive Member where
  | field (name : String)
  | index (n : Nat)
  deriving DecidableEq, Repr

def Member.words : Member → String
  | .field name => name
  | .index n    => "[" ++ toString n ++ "]"

structure Fault where
  cause  : Cause
  /-- The number of bytes not yet read. -/
  left   : Nat
  member : Option Member := none

/-- A reader takes a front of the text and returns what it read and the rest. -/
abbrev Read (α : Type) := List UInt8 → Except Fault (α × List UInt8)

namespace Fault

/-- A fault found when the rest has not been read. -/
def before (rest : List UInt8) (m : Malformed) : Fault := ⟨.malformed m, rest.length, none⟩

/-- A fault found at the first byte of the rest, which counts as read. -/
def peeking (rest : List UInt8) (m : Malformed) : Fault :=
  ⟨.malformed m, rest.length - 1, none⟩

/-- A wrong shape found when the rest has not been read. -/
def shape (rest : List UInt8) (e : ShapeError) : Fault := ⟨.shape e, rest.length, none⟩

/-- The fault as one of a member. -/
def inMember (m : Member) (f : Fault) : Fault := { f with member := some m }

/-- Is the text JSON up to the fault? -/
def isShape (f : Fault) : Bool :=
  match f.cause with
  | .malformed _ => false
  | .shape _     => true

/-- The line, counted from one, and the bytes read on it. -/
def place : List UInt8 → Nat × Nat :=
  List.foldl (fun (line, column) b => if b = 10 then (line + 1, 0) else (line, column + 1)) (1, 0)

/-- The fault in the text, in words. -/
def message (text : List UInt8) (f : Fault) : String :=
  let (line, column) := place (text.take (text.length - f.left))
  (match f.member with
    | none   => ""
    | some m => m.words ++ ": ")
    ++ f.cause.message ++ " at line " ++ toString line ++ " column " ++ toString column

end Fault

end Gatehouse.Json
