import Gatehouse.Directory

/-! # JSON values

    A value keeps the members of an object in the order of the text, repeated names
    included; what a repetition means is for the reader of the value to say.

    Core Lean 4 only. -/

namespace Gatehouse

/-- A JSON value. -/
inductive Json where
  | null
  | boolean (b : Bool)
  | integer (n : Int)
  | float (x : Float)
  | string (s : String)
  | array (elements : List Json)
  | object (members : List (String × Json))
  deriving Inhabited

namespace Json

/-- The value of the last member of the name. -/
def lastMember (name : String) (members : List (String × Json)) : Option Json :=
  members.reverse.lookup name

/-- The members of an object with each name once, its last value, in ascending order. -/
def directory (members : List (String × Json)) : Directory Json := Directory.ofList members

end Json

end Gatehouse
