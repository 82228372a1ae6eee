import Gatehouse.Text.Digit

/-! # Socket addresses

    The webhook listener binds one socket address, written in one of two ways:

        192.0.2.1:8080
        [2001:db8::1%3]:8080

    `parse` reads an address and `SocketAddress.render` writes one.  Four decimal octets
    have no leading zeros; a port may have any number of them.  Of eight groups of up to
    four hexadecimal digits one run may be left out as `::`, and the last two may be written
    as four octets.

    Core Lean 4 only. -/

namespace Gatehouse.Net

/-- Four octets. -/
structure Address4 where
  a : Nat
  b : Nat
  c : Nat
  d : Nat
  deriving DecidableEq, Repr

/-- Where a listener is bound. -/
inductive SocketAddress where
  | v4 (address : Address4) (port : Nat)
  /-- Eight groups; `scope` is zero when it is not written. -/
  | v6 (groups : List Nat) (scope : Nat) (port : Nat)
  deriving DecidableEq, Repr

/-! ## Reading -/

/-- A reader takes a front of the text, or fails. -/
abbrev Read (α : Type) := List Char → Option (α × List Char)

/-- How a number is written. -/
structure NumberForm where
  base         : Nat
  /-- The greatest number of digits, if there is one. -/
  longest      : Option Nat
  leadingZeros : Bool
  /-- The greatest number. -/
  bound        : Nat

def octet : NumberForm := ⟨10, some 3, false, 255⟩
def group : NumberForm := ⟨16, some 4, true, 65535⟩
def port  : NumberForm := ⟨10, none, true, 65535⟩
def scope : NumberForm := ⟨10, none, true, 4294967295⟩

/-- All the digits in front, as a number of the form. -/
def readNumber (form : NumberForm) : Read Nat := fun s =>
  let digits := s.takeWhile (Text.isDigitIn form.base)
  let n := Text.ofDigits form.base digits
  if digits.isEmpty then none
  else if form.longest.any (· < digits.length) then none
  else if !form.leadingZeros && digits.length > 1 && digits.head? == some '0' then none
  else if n ≤ form.bound then some (n, s.dropWhile (Text.isDigitIn form.base))
  else none

/-- One given character. -/
def readChar (c : Char) : Read Unit
  | []     => none
  | d :: r => if d = c then some ((), r) else none

/-- What the reader reads, after the separator unless it is the first of its row. -/
def readNext {α : Type} (separator : Char) (first : Bool) (read : Read α) : Read α := fun s =>
  if first then read s
  else do
    let (_, s) ← readChar separator s
    read s

def readAddress4 : Read Address4 := fun s => do
  let (a, s) ← readNumber octet s
  let (b, s) ← readNext '.' false (readNumber octet) s
  let (c, s) ← readNext '.' false (readNumber octet) s
  let (d, s) ← readNext '.' false (readNumber octet) s
  return (⟨a, b, c, d⟩, s)

/-- The groups in front of a text. -/
structure Groups where
  groups : List Nat
  /-- Were the last two written as octets? -/
  octets : Bool
  rest   : List Char

/-- Up to `room` more groups after those already read (last first).  Where two groups have
    room, four octets may stand in their place, and nothing follows them. -/
def readGroups (found : List Nat) : Nat → List Char → Groups
  | 0, s        => ⟨found.reverse, false, s⟩
  | room + 1, s =>
    match (if room = 0 then none else readNext ':' found.isEmpty readAddress4 s) with
    | some (q, s) =>
      ⟨found.reverse ++ [q.a * 256 + q.b, q.c * 256 + q.d], true, s⟩
    | none        =>
      match readNext ':' found.isEmpty (readNumber group) s with
      | some (g, s) => readGroups (g :: found) room s
      | none        => ⟨found.reverse, false, s⟩

/-- Eight groups, of which one run may be left out. -/
def readAddress6 : Read (List Nat) := fun s =>
  let head := readGroups [] 8 s
  if head.groups.length = 8 then some (head.groups, head.rest)
  else if head.octets then none
  else do
    let (_, s) ← readChar ':' head.rest
    let (_, s) ← readChar ':' s
    let tail := readGroups [] (7 - head.groups.length) s
    let missing := 8 - head.groups.length - tail.groups.length
    return (head.groups ++ List.replicate missing 0 ++ tail.groups, tail.rest)

/-- A scope after its mark; zero when there is none. -/
def readScope : Read Nat
  | '%' :: s => readNumber scope s
  | s        => some (0, s)

def readSocket4 : Read SocketAddress := fun s => do
  let (address, s) ← readAddress4 s
  let (port, s) ← readNext ':' false (readNumber port) s
  return (.v4 address port, s)

def readSocket6 : Read SocketAddress := fun s => do
  let (_, s) ← readChar '[' s
  let (groups, s) ← readAddress6 s
  let (scope, s) ← readScope s
  let (_, s) ← readChar ']' s
  let (port, s) ← readNext ':' false (readNumber port) s
  return (.v6 groups scope port, s)

/-- The address that the whole text writes. -/
def SocketAddress.parse (text : String) : Option SocketAddress :=
  match (readSocket4 text.toList).orElse fun _ => readSocket6 text.toList with
  | some (address, []) => some address
  | _                  => none

/-- What is said of a text that is no address. -/
def notAnAddress : String := "invalid socket address syntax"

/-! ## Writing -/

def Address4.render (q : Address4) : String :=
  ".".intercalate ([q.a, q.b, q.c, q.d].map toString)

/-- Groups with colons between them. -/
def renderGroups (groups : List Nat) : String :=
  ":".intercalate (groups.map fun g => String.ofList (Nat.toDigits 16 g))

/-- The number of zeros in front. -/
def zeros (groups : List Nat) : Nat := (groups.takeWhile (· = 0)).length

/-- The first of the longest runs of zeros: the groups before it and its length. -/
def longestRun : List Nat → Nat × Nat
  | []        => (0, 0)
  | g :: rest =>
    let here  := zeros (g :: rest)
    let later := longestRun rest
    if later.2 ≤ here then (0, here) else (later.1 + 1, later.2)

/-- Eight groups; the first of the longest runs of two or more zeros is left out. -/
def renderAddress6 (groups : List Nat) : String :=
  match groups with
  | [0, 0, 0, 0, 0, 0xffff, g, h] =>
    "::ffff:" ++ (Address4.render ⟨g / 256, g % 256, h / 256, h % 256⟩)
  | _ =>
    let (start, length) := longestRun groups
    if length ≤ 1 then renderGroups groups
    else renderGroups (groups.take start) ++ "::" ++ renderGroups (groups.drop (start + length))

def SocketAddress.render : SocketAddress → String
  | .v4 address port      => address.render ++ ":" ++ toString port
  | .v6 groups scope port =>
    "[" ++ renderAddress6 groups ++ (if scope = 0 then "" else "%" ++ toString scope) ++ "]:"
      ++ toString port

/-- The port of an address. -/
def SocketAddress.port : SocketAddress → Nat
  | .v4 _ port   => port
  | .v6 _ _ port => port

end Gatehouse.Net
