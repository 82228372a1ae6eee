import Gatehouse.Decimal.Layout
import Gatehouse.Text.Quoted

/-! # Documents of the wrong shape

    A document may be well formed and still not say what the program asks of it: a field
    is missing, a value is of another kind, a list has the wrong length.  Such a mistake is
    a `ShapeError`, the same for every kind of document; the kinds of document differ only
    in the wording of a few values, their `Dialect`. -/

namespace Gatehouse

/-- What stands in a value's place. -/
inductive Found where
  | null
  | boolean (b : Bool)
  | integer (n : Int)
  /-- An integer of more than 64 bits. -/
  | wide (n : Int)
  | float (x : Float)
  | string (s : String)
  | sequence
  | map

/-- How a kind of document words a value. -/
structure Dialect where
  null  : String
  float : Decimal.Layout
  deriving DecidableEq, Repr

def Dialect.json : Dialect := ⟨"null", .json⟩
def Dialect.yaml : Dialect := ⟨"unit value", .yaml⟩

/-- A text between backquotes. -/
def marked (s : String) : String := "`" ++ s ++ "`"

def Found.words (d : Dialect) : Found → String
  | .null      => d.null
  | .boolean b => "boolean " ++ marked (toString b)
  | .integer n => "integer " ++ marked (toString n)
  | .wide n    => "integer " ++ marked (toString n) ++ (if n < 0 then " as i128" else " as u128")
  | .float x   => "floating point " ++ marked (d.float.float x)
  | .string s  => "string " ++ Text.quoted s
  | .sequence  => "sequence"
  | .map       => "map"

/-- What is wrong with the shape of a document. -/
inductive ShapeError where
  | missingField (name : String)
  | duplicateField (name : String)
  /-- A choice that is none of the given ones. -/
  | unknownVariant (name : String) (choices : String)
  /-- A value of another kind. -/
  | invalidType (found : Found) (expected : String)
  /-- A value of the right kind that is not allowed. -/
  | invalidValue (found : Found) (expected : String)
  | invalidLength (length : Nat) (expected : String)

def ShapeError.message (d : Dialect) : ShapeError → String
  | .missingField name         => "missing field " ++ marked name
  | .duplicateField name       => "duplicate field " ++ marked name
  | .unknownVariant name choices =>
    "unknown variant " ++ marked name ++ ", expected " ++ choices
  | .invalidType found expected =>
    "invalid type: " ++ found.words d ++ ", expected " ++ expected
  | .invalidValue found expected =>
    "invalid value: " ++ found.words d ++ ", expected " ++ expected
  | .invalidLength length expected =>
    "invalid length " ++ toString length ++ ", expected " ++ expected

end Gatehouse
