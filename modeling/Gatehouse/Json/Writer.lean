import Gatehouse.Decimal.Layout
import Gatehouse.Json.Value

/-! # Writing JSON

    Values are written without any space, members in their order.  In a string only a quote,
    a backslash and the controls below space are spelled out; all else stands for itself.

    Core Lean 4 only. -/

namespace Gatehouse.Json

/-- The hexadecimal digit of a number below sixteen. -/
def hexDigit (n : Nat) : Char := Nat.digitChar n

/-- How one character stands in a string. -/
def escaped (c : Char) : List Char :=
  match c with
  | '"'    => ['\\', '"']
  | '\\'   => ['\\', '\\']
  | '\x08' => ['\\', 'b']
  | '\t'   => ['\\', 't']
  | '\n'   => ['\\', 'n']
  | '\x0c' => ['\\', 'f']
  | '\r'   => ['\\', 'r']
  | c      =>
    if c.toNat < 0x20 then
      ['\\', 'u', '0', '0', hexDigit (c.toNat / 16), hexDigit (c.toNat % 16)]
    else [c]

/-- A string between quotes. -/
def renderString (s : String) : List Char := '"' :: s.toList.flatMap escaped ++ ['"']

/-- Parts with a comma between them. -/
def commas : List (List Char) → List Char
  | []          => []
  | [p]         => p
  | p :: q :: r => p ++ ',' :: commas (q :: r)

mutual

/-- The characters of a value. -/
def renderChars : Json → List Char
  | .null      => "null".toList
  | .boolean b => (toString b).toList
  | .integer n => (toString n).toList
  | .float x   => (Decimal.Layout.json.float x).toList
  | .string s  => renderString s
  | .array es  => '[' :: commas (renderElements es) ++ [']']
  | .object ms => '\x7b' :: commas (renderMembers ms) ++ ['\x7d']

def renderElements : List Json → List (List Char)
  | []      => []
  | e :: es => renderChars e :: renderElements es

def renderMembers : List (String × Json) → List (List Char)
  | []           => []
  | (k, v) :: ms => (renderString k ++ ':' :: renderChars v) :: renderMembers ms

end

/-- The text of a value. -/
def render (j : Json) : String := String.ofList j.renderChars

end Gatehouse.Json
