import Gatehouse.Text.Printable

/-! # Quoted text

    An error message that names a user or a configured value shows it between double
    quotes, so that the reader sees where it begins and ends whatever it holds.

    A quote and a backslash get a backslash in front; NUL, TAB, LF and CR have a letter of
    their own; any other character that is not plain is written `\u`, then its code point
    in hexadecimal without leading zeros between braces; all else stands for itself.

    Core Lean 4 only. -/

namespace Gatehouse.Text

/-- The lower-case hexadecimal digits of a number, without leading zeros. -/
def hex (n : Nat) : List Char := Nat.toDigits 16 n

/-- How one character stands in a quoted text if these characters are plain. -/
def quotedCharIn (plain : Char → Bool) (c : Char) : List Char :=
  match c with
  | '"'    => ['\\', '"']
  | '\\'   => ['\\', '\\']
  | '\x00' => ['\\', '0']
  | '\t'   => ['\\', 't']
  | '\n'   => ['\\', 'n']
  | '\r'   => ['\\', 'r']
  | c      => if plain c then [c] else ['\\', 'u', '\x7b'] ++ hex c.toNat ++ ['\x7d']

/-- What stands between the quotes. -/
def quotedCharsIn (plain : Char → Bool) (s : String) : List Char :=
  s.toList.flatMap (quotedCharIn plain)

/-- A text between double quotes. -/
def quotedIn (plain : Char → Bool) (s : String) : String :=
  String.ofList ('"' :: quotedCharsIn plain s ++ ['"'])

/-- A text between double quotes, with every character that could mislead spelled out. -/
def quoted (s : String) : String := quotedIn isPlain s

end Gatehouse.Text
