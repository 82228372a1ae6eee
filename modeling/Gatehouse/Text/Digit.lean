/-! # Digits

    Numbers are written in several bases: ports in ten, code points and address groups in
    sixteen, configured integers in any of two, eight, ten and sixteen.  Only the ASCII
    digits count, the letters in either case.

    Core Lean 4 only. -/

namespace Gatehouse.Text

/-- The value of a digit in base 36. -/
def digitValue? (c : Char) : Option Nat :=
  let n := c.toNat
  if 48 ≤ n ∧ n ≤ 57 then some (n - 48)
  else if 65 ≤ n ∧ n ≤ 90 then some (n - 55)
  else if 97 ≤ n ∧ n ≤ 122 then some (n - 87)
  else none

/-- Is the character a digit in the base? -/
def isDigitIn (base : Nat) (c : Char) : Bool := (digitValue? c).any (· < base)

/-- Is the character one of the ten decimal digits? -/
def isDecimal (c : Char) : Bool := isDigitIn 10 c

/-- The number that digits write, highest first. -/
def ofDigits (base : Nat) (digits : List Char) : Nat :=
  digits.foldl (fun n c => n * base + (digitValue? c).getD 0) 0

/-- The number that one or more digits write; nothing if another character is among them. -/
def number? (base : Nat) (digits : List Char) : Option Nat :=
  if !digits.isEmpty && digits.all (isDigitIn base) then some (ofDigits base digits) else none

/-- The decimal digits of a number, without leading zeros. -/
def decimal (n : Nat) : List Char := Nat.toDigits 10 n

end Gatehouse.Text
