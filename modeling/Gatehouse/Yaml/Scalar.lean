import Gatehouse.Shape
import Gatehouse.Yaml.Node

/-! # What plain scalars stand for

    A plain scalar without a tag stands for nothing, a truth value, an integer or a float if
    its text looks like one, and else for its text.  Integers may be written in base two,
    eight, ten and sixteen; digits after a leading zero are a text.

    Core Lean 4 only. -/

namespace Gatehouse.Yaml.Scalar

/-! ## Nothing and truth values -/

def isNull (text : String) : Bool := text ∈ ["null", "Null", "NULL", "~"]

def boolean? (text : String) : Option Bool :=
  if text ∈ ["true", "True", "TRUE"] then some true
  else if text ∈ ["false", "False", "FALSE"] then some false
  else none

/-! ## Integers -/

def isSign (c : Char) : Bool := c = '+' || c = '-'

def beginsWithSign (s : List Char) : Bool := s.head?.any isSign

/-- The text without a plus sign in front. -/
def withoutPlus : List Char → List Char
  | '+' :: s => s
  | s        => s

/-- Digits after a leading zero, which make no number. -/
def isZeroLed (s : List Char) : Bool :=
  match (if beginsWithSign s then s.tail else s) with
  | '0' :: c :: rest => (c :: rest).all Text.isDecimal
  | _                => false

/-- The digits of a number, their base in front of them unless it is ten. -/
def magnitude? : List Char → Option Nat
  | '0' :: 'x' :: s => Text.number? 16 s
  | '0' :: 'o' :: s => Text.number? 8 s
  | '0' :: 'b' :: s => Text.number? 2 s
  | s               => Text.number? 10 s

/-- An integer without a minus sign. -/
def natural? (s : List Char) : Option Nat :=
  if isZeroLed s then none else magnitude? (withoutPlus s)

/-- An integer with a minus sign. -/
def negative? : List Char → Option Int
  | '-' :: s => if isZeroLed s then none else (magnitude? s).map fun n => -(n : Int)
  | _        => none

/-- An integer of at most 64 bits, or a wide one of at most 128. -/
def integer? (s : List Char) : Option Found :=
  match natural? s, negative? s with
  | some n, _    =>
    if n < Nat.pow 2 64 then some (.integer n)
    else if n < Nat.pow 2 128 then some (.wide n)
    else none
  | none, some n =>
    if n.natAbs ≤ Nat.pow 2 63 then some (.integer n)
    else if n.natAbs ≤ Nat.pow 2 127 then some (.wide n)
    else none
  | none, none   => none

/-! ## Floats -/

/-- The float nearest to `digits · 10 ^ e`.  Beyond the exponents tested first, floats are
    infinite or zero. -/
def nearest (digits : Nat) (e : Int) : Float :=
  let size : Int := (Text.decimal digits).length + e
  if digits = 0 ∨ size < -400 then 0.0
  else if 400 < size then 1.0 / 0.0
  else Float.ofScientific digits (e < 0) e.natAbs

/-- The exponent of a float, after its letter. -/
def exponent? (s : List Char) : Option Int :=
  match s with
  | '-' :: ds => (Text.number? 10 ds).map fun n => -(n : Int)
  | '+' :: ds => (Text.number? 10 ds).map fun n => (n : Int)
  | ds        => (Text.number? 10 ds).map fun n => (n : Int)

/-- A float without a sign: digits with a point among them or not, and an exponent or not. -/
def unsigned? (s : List Char) : Option Float :=
  let whole := s.takeWhile Text.isDecimal
  let rest := s.dropWhile Text.isDecimal
  let (places, rest) :=
    match rest with
    | '.' :: r => (r.takeWhile Text.isDecimal, r.dropWhile Text.isDecimal)
    | r        => ([], r)
  if whole.isEmpty && places.isEmpty then none
  else
    let e :=
      match rest with
      | []        => some 0
      | 'e' :: ds => exponent? ds
      | 'E' :: ds => exponent? ds
      | _         => none
    e.map fun e => nearest (Text.ofDigits 10 (whole ++ places)) (e - places.length)

/-- A float; a number too large for one is none. -/
def float? (s : List Char) : Option Float :=
  let positive := withoutPlus s
  if positive.length < s.length && beginsWithSign positive then none
  else if String.ofList positive ∈ [".inf", ".Inf", ".INF"] then some (1.0 / 0.0)
  else if String.ofList s ∈ ["-.inf", "-.Inf", "-.INF"] then some (-1.0 / 0.0)
  else if String.ofList s ∈ [".nan", ".NaN", ".NAN"] then some (0.0 / 0.0)
  else
    let x :=
      match positive with
      | '-' :: ds => (unsigned? ds).map fun x => -x
      | ds        => unsigned? ds
    x.filter (·.isFinite)

/-! ## Resolution -/

/-- What a plain scalar without a tag stands for. -/
def resolve (text : String) : Found :=
  let s := text.toList
  if text.isEmpty || isNull text then .null
  else
    match boolean? text, integer? s with
    | some b, _       => .boolean b
    | none, some n    => n
    | none, none      =>
      match (if isZeroLed s then none else float? s) with
      | some x => .float x
      | none   => .string text

def boolTag  : String := "tag:yaml.org,2002:bool"
def intTag   : String := "tag:yaml.org,2002:int"
def floatTag : String := "tag:yaml.org,2002:float"
def nullTag  : String := "tag:yaml.org,2002:null"

/-- The complaint about a scalar where something else was expected.  A tag of the core schema
    that does not fit the text is a mistake of its own. -/
def mistaken (tag : Option String) (text : String) (style : Style) (expected : String) :
    ShapeError :=
  let as (found : Option Found) (kind : String) : ShapeError :=
    match found with
    | some found => .invalidType found expected
    | none       => .invalidValue (.string text) kind
  let s := text.toList
  if tag = some boolTag then as ((boolean? text).map .boolean) "a boolean"
  else if tag = some intTag then as (integer? s) "an integer"
  else if tag = some floatTag then as ((float? s).map .float) "a float"
  else if tag = some nullTag then as (if isNull text then some .null else none) "null"
  else
    let resolved := style = .plain ∧ tag.all (·.startsWith "!")
    .invalidType (if resolved then resolve text else .string text) expected

end Gatehouse.Yaml.Scalar
