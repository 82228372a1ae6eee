import Gatehouse.Json.Scalar
import Gatehouse.Json.Value

/-! # Whole JSON documents

    `Json.parse?` reads a text as one value of any kind.  Here a text is JSON or it is not:
    where exactly it goes wrong is told only of request bodies (`Gatehouse.Json.Record`).

    Core Lean 4 only. -/

namespace Gatehouse.Json

namespace Document

/-- What a reader read, if it did. -/
def got {α : Type} : Except Fault α → Option α
  | .ok a    => some a
  | .error _ => none

/-- A value that is no array and no object. -/
def scalar? (s : List UInt8) : Option (Json × List UInt8) :=
  match s with
  | []        => none
  | b :: rest =>
    match Char.ofUInt8 b with
    | 'n' => (got (readWord "ull".toList rest)).map fun rest => (.null, rest)
    | 't' => (got (readWord "rue".toList rest)).map fun rest => (.boolean true, rest)
    | 'f' => (got (readWord "alse".toList rest)).map fun rest => (.boolean false, rest)
    | '"' => (got (readString rest)).map fun (t, rest) => (.string t, rest)
    | _   =>
      match got (readNumber s) with
      | none                    => none
      | some (.integer n, rest) => some (.integer n, rest)
      | some (.float x, rest)   => some (.float x, rest)

/-- The rest after a character that must come next, after blanks. -/
def expect? (c : Char) (s : List UInt8) : Option (List UInt8) :=
  match dropSpace s with
  | []        => none
  | b :: rest => if Char.ofUInt8 b = c then some rest else none

mutual

/-- A value; `fuel` bounds the number of values and brackets read. -/
def value? : Nat → List UInt8 → Option (Json × List UInt8)
  | 0, _        => none
  | fuel + 1, s =>
    match dropSpace s with
    | []        => none
    | b :: rest =>
      match Char.ofUInt8 b with
      | '['    =>
        match expect? ']' rest with
        | some rest => some (.array [], rest)
        | none      => elements? fuel [] rest
      | '\x7b' =>
        match expect? '\x7d' rest with
        | some rest => some (.object [], rest)
        | none      => members? fuel [] rest
      | _      => scalar? (b :: rest)

/-- The elements of an array after those already read, last first. -/
def elements? : Nat → List Json → List UInt8 → Option (Json × List UInt8)
  | 0, _, _            => none
  | fuel + 1, found, s =>
    match value? fuel s with
    | none           => none
    | some (v, rest) =>
      match expect? ',' rest with
      | some rest => elements? fuel (v :: found) rest
      | none      => (expect? ']' rest).map fun rest => (.array (v :: found).reverse, rest)

/-- The members of an object after those already read, last first. -/
def members? : Nat → List (String × Json) → List UInt8 → Option (Json × List UInt8)
  | 0, _, _            => none
  | fuel + 1, found, s => do
    let rest ← expect? '"' s
    let (key, rest) ← got (readString rest)
    let rest ← expect? ':' rest
    let (v, rest) ← value? fuel rest
    match expect? ',' rest with
    | some rest => members? fuel ((key, v) :: found) rest
    | none      => (expect? '\x7d' rest).map fun rest => (.object ((key, v) :: found).reverse, rest)

end

end Document

/-- The value that a text holds, with nothing but blanks around it.  Two units of fuel for
    each byte are enough, since every other step takes one. -/
def parse? (text : List UInt8) : Option Json :=
  match Document.value? (2 * text.length + 2) text with
  | none           => none
  | some (v, rest) => if (dropSpace rest).isEmpty then some v else none

end Gatehouse.Json
