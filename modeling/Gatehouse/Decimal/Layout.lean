import Gatehouse.Decimal.Shortest

/-! # Layouts of floats

    Floats are written in three places: in the metrics, and in the messages about the two
    kinds of document.  All write the shortest decimal and always show that it is no
    integer; they differ in where the exponent begins and in how it looks.

    Core Lean 4 only. -/

namespace Gatehouse.Decimal

/-- How an exponent is written. -/
structure ExponentForm where
  /-- The least exponent that is spelled out as a position. -/
  lowest  : Int
  /-- The greatest. -/
  highest : Int
  /-- Has a positive exponent a sign? -/
  plus    : Bool
  /-- The least number of its digits. -/
  width   : Nat
  deriving DecidableEq, Repr

/-- How a float is written. -/
structure Layout where
  /-- Nothing: every exponent is spelled out as a position. -/
  exponent : Option ExponentForm
  tie      : Tie
  infinity : String
  notANumber : String
  deriving DecidableEq, Repr

/-- Samples of metrics. -/
def Layout.metric : Layout := ⟨some ⟨-6, 20, false, 1⟩, .up, "inf", "NaN"⟩

/-- Messages about JSON. -/
def Layout.json : Layout := ⟨some ⟨-5, 15, true, 2⟩, .toEven, "inf", "NaN"⟩

/-- Messages about YAML. -/
def Layout.yaml : Layout := ⟨none, .up, "inf", "NaN"⟩

/-- The digits with a point in their place, and at least one digit on each of its sides. -/
def Digits.positional (d : Digits) : List Char :=
  if d.leading < 0 then '0' :: '.' :: (List.replicate (-d.leading - 1).toNat '0' ++ d.digits)
  else
    let whole := d.leading.toNat + 1
    let fraction := d.digits.drop whole
    d.digits.take whole ++ List.replicate (whole - d.digits.length) '0'
      ++ '.' :: (if fraction.isEmpty then ['0'] else fraction)

/-- The first digit, a point and the others if there are others, and the exponent. -/
def Digits.scientific (d : Digits) (form : ExponentForm) : List Char :=
  let size := Text.decimal d.leading.natAbs
  let sign := if d.leading < 0 then ['-'] else if form.plus then ['+'] else []
  d.digits.take 1 ++ (if d.digits.length ≤ 1 then [] else '.' :: d.digits.drop 1)
    ++ 'e' :: sign ++ List.replicate (form.width - size.length) '0' ++ size

/-- Digits as the layout writes them. -/
def Layout.digits (l : Layout) (d : Digits) : List Char :=
  match l.exponent with
  | none      => d.positional
  | some form =>
    if form.lowest ≤ d.leading ∧ d.leading ≤ form.highest then d.positional
    else d.scientific form

/-- A float as the layout writes it. -/
def Layout.float (l : Layout) (x : Float) : String :=
  let bits := x.toBits
  let sign := if bits >>> 63 = 0 then "" else "-"
  if x.isNaN then l.notANumber
  else if x.isInf then sign ++ l.infinity
  else
    let b := Binary.ofBits bits
    if b.mantissa = 0 then sign ++ "0.0"
    else sign ++ String.ofList (l.digits (shortest b l.tie))

end Gatehouse.Decimal
