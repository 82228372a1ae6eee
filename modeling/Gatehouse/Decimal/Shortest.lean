import Gatehouse.Text.Digit

/-! # The shortest decimal of a float

    A float stands for every real number that rounds to it.  `shortest` finds the decimal
    with the fewest digits among those, and of two with equally many the one nearer to the
    float's own value.

    The search is exact: a float is `m · 2^q`, and for one digit, two, and so on up to
    seventeen, the two neighbours of the value with that many digits are tried.

    Core Lean 4 only. -/

namespace Gatehouse.Decimal

/-! ## Floats as fractions -/

/-- A positive float: its value is `mantissa · 2 ^ exponent`. -/
structure Binary where
  mantissa : Nat
  exponent : Int
  /-- Is the float below only half as far away as the float above? -/
  narrow   : Bool
  deriving DecidableEq, Repr

/-- The size of a finite float, read off the bits after its sign. -/
def Binary.ofBits (bits : UInt64) : Binary :=
  let exponent := (bits >>> 52).toNat % 2048
  let fraction := bits.toNat % Nat.pow 2 52
  if exponent = 0 then ⟨fraction, -1074, false⟩
  else ⟨Nat.pow 2 52 + fraction, (exponent : Int) - 1075, fraction = 0 && 1 < exponent⟩

/-- A fraction whose denominator is not zero. -/
structure Fraction where
  num : Nat
  den : Nat

/-- The value of a float, its mantissa multiplied by `k` and its exponent less two, so that
    a quarter of the mantissa's last place is a whole number. -/
def Binary.quarters (b : Binary) : Fraction :=
  let e := b.exponent - 2
  ⟨Nat.pow 2 e.toNat, Nat.pow 2 (-e).toNat⟩

/-- The exponent of the leading digit: `10 ^ e ≤ f < 10 ^ (e + 1)`. -/
def Fraction.leading (f : Fraction) : Int :=
  if f.den ≤ f.num then ((Text.decimal (f.num / f.den)).length : Int) - 1
  else
    let places := (Text.decimal (f.den / f.num)).length
    if f.den ≤ f.num * Nat.pow 10 (places - 1) then 1 - (places : Int) else -(places : Int)

/-! ## The search -/

/-- Which of two equally near decimals is taken. -/
inductive Tie where
  | toEven
  | up
  deriving DecidableEq, Repr

/-- Of the two multiples of `10 ^ place` next to the value the nearer one that rounds to the
    float, as the number of times. -/
def Binary.onGrid? (b : Binary) (tie : Tie) (place : Int) : Option Nat :=
  let unit := b.quarters
  let num := unit.num * Nat.pow 10 (-place).toNat
  let den := unit.den * Nat.pow 10 place.toNat
  let value := 4 * b.mantissa * num
  let low   := (4 * b.mantissa - if b.narrow then 1 else 2) * num
  let high  := (4 * b.mantissa + 2) * num
  let rounds (n : Nat) : Bool :=
    if b.mantissa % 2 = 0 then low ≤ n * den && n * den ≤ high
    else low < n * den && n * den < high
  let below := value / den
  let above := below + 1
  let distance := value - below * den
  match rounds below, rounds above with
  | false, false => none
  | true, false  => some below
  | false, true  => some above
  | true, true   =>
    if 2 * distance < den then some below
    else if den < 2 * distance then some above
    else match tie with
      | .up     => some above
      | .toEven => some (if below % 2 = 0 then below else above)

/-- A positive decimal: the digits, the first and the last not zero, and the exponent of the
    first. -/
structure Digits where
  digits  : List Char
  leading : Int
  deriving DecidableEq, Repr

/-- The digits of `n · 10 ^ place`. -/
def Digits.ofMultiple (n : Nat) (place : Int) : Digits :=
  let digits := Text.decimal n
  ⟨(digits.reverse.dropWhile (· = '0')).reverse, place + digits.length - 1⟩

/-- The shortest decimal that rounds to a positive float. -/
def shortest (b : Binary) (tie : Tie) : Digits :=
  let value : Fraction := ⟨4 * b.mantissa * b.quarters.num, b.quarters.den⟩
  let grid (digits : Nat) : Int := value.leading - digits
  let found := (List.range 17).findSome? fun digits =>
    (b.onGrid? tie (grid digits)).map fun n => Digits.ofMultiple n (grid digits)
  found.getD ⟨['0'], 0⟩

end Gatehouse.Decimal
