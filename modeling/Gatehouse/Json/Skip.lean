import Gatehouse.Json.Scalar

/-! # Values that are passed over

    A member that nobody asked for may hold any value, nested to any depth; it is checked
    to be JSON and passed over.  The check is a machine that takes one byte at a time: its
    state is the place of the next byte in the value and the brackets still open around it.

    Less is asked of a value passed over than of one that is read: strings need not be
    UTF-8, surrogates need not be paired, and numbers may have any size.

    Core Lean 4 only. -/

namespace Gatehouse.Json.Skip

/-- An open bracket. -/
inductive Bracket where
  | list
  | object
  deriving DecidableEq, Repr

/-- A string is a value or the key of a member. -/
inductive Role where
  | value
  | key
  deriving DecidableEq, Repr

/-- What the next byte of a number may be. -/
inductive Figure where
  /-- The first digit, after a sign. -/
  | first
  /-- Nothing more: the number began with zero. -/
  | zero
  | whole
  /-- The first digit after the point. -/
  | point
  | fraction
  /-- A sign or a digit of the exponent. -/
  | exponent
  /-- The first digit of the exponent, after its sign. -/
  | sign
  | power
  deriving DecidableEq, Repr

/-- The place of the next byte. -/
inductive Place where
  /-- A value begins. -/
  | value
  /-- A list or an object has just been opened. -/
  | opened
  /-- A value has ended inside a bracket. -/
  | after
  /-- A key begins. -/
  | key
  /-- A key has ended. -/
  | colon
  /-- Letters are left of a word. -/
  | word (letters : List Char)
  | string (role : Role)
  /-- Right after a backslash. -/
  | escape (role : Role)
  /-- Among the four digits of an escape; `digits` are read, last first. -/
  | hex (role : Role) (digits : List Char)
  | number (figure : Figure)
  deriving DecidableEq, Repr

/-- What a byte does to the machine. -/
inductive Move where
  /-- The byte is taken. -/
  | take (place : Place) (brackets : List Bracket)
  /-- The byte is taken and the value is whole. -/
  | last
  /-- The value was whole before the byte. -/
  | stop
  | fault (m : Malformed)
  /-- A fault that does not count the byte as read. -/
  | faultBefore (m : Malformed)
  deriving DecidableEq, Repr

/-! ## One byte -/

/-- A value has ended with the byte just taken. -/
def ended : List Bracket → Move
  | []   => .last
  | b :: bs => .take .after (b :: bs)

/-- The byte begins a value. -/
def begin (brackets : List Bracket) (b : UInt8) : Move :=
  match Char.ofUInt8 b with
  | 'n'    => .take (.word ['u', 'l', 'l']) brackets
  | 't'    => .take (.word ['r', 'u', 'e']) brackets
  | 'f'    => .take (.word ['a', 'l', 's', 'e']) brackets
  | '"'    => .take (.string .value) brackets
  | '['    => .take .opened (.list :: brackets)
  | '\x7b' => .take .opened (.object :: brackets)
  | '-'    => .take (.number .first) brackets
  | '0'    => .take (.number .zero) brackets
  | _      => if isDigit b then .take (.number .whole) brackets else .fault .expectedValue

/-- The byte begins a key. -/
def beginKey (brackets : List Bracket) (b : UInt8) : Move :=
  if Char.ofUInt8 b = '"' then .take (.string .key) brackets else .fault .keyNotString

/-- The byte follows a value. -/
def follow (brackets : List Bracket) (b : UInt8) : Move :=
  match brackets with
  | []           => .stop
  | .list :: bs  =>
    match Char.ofUInt8 b with
    | ','  => .take .value (.list :: bs)
    | ']'  => ended bs
    | _    => if isSpace b then .take .after (.list :: bs) else .fault .expectedCommaOrBracket
  | .object :: bs =>
    match Char.ofUInt8 b with
    | ','    => .take .key (.object :: bs)
    | '\x7d' => ended bs
    | _      => if isSpace b then .take .after (.object :: bs) else .fault .expectedCommaOrBrace

/-- The byte follows an opening bracket. -/
def open? (brackets : List Bracket) (b : UInt8) : Move :=
  match brackets with
  | []            => .stop
  | .list :: bs   => if Char.ofUInt8 b = ']' then ended bs else begin (.list :: bs) b
  | .object :: bs => if Char.ofUInt8 b = '\x7d' then ended bs else beginKey (.object :: bs) b

/-- A string has ended. -/
def endString (brackets : List Bracket) : Role → Move
  | .value => ended brackets
  | .key   => .take .colon brackets

/-- The byte in a number. -/
def figure (brackets : List Bracket) (b : UInt8) (f : Figure) : Move :=
  let digit (next : Figure) : Move :=
    if isDigit b then .take (.number next) brackets else .fault .invalidNumber
  let c := Char.ofUInt8 b
  match f with
  | .first    => if c = '0' then .take (.number .zero) brackets else digit .whole
  | .zero     =>
    if isDigit b then .fault .invalidNumber
    else if c = '.' then .take (.number .point) brackets
    else if c = 'e' ∨ c = 'E' then .take (.number .exponent) brackets
    else follow brackets b
  | .whole    =>
    if isDigit b then .take (.number .whole) brackets
    else if c = '.' then .take (.number .point) brackets
    else if c = 'e' ∨ c = 'E' then .take (.number .exponent) brackets
    else follow brackets b
  | .point    => digit .fraction
  | .fraction =>
    if isDigit b then .take (.number .fraction) brackets
    else if c = 'e' ∨ c = 'E' then .take (.number .exponent) brackets
    else follow brackets b
  | .exponent => if c = '+' ∨ c = '-' then .take (.number .sign) brackets else digit .power
  | .sign     => digit .power
  | .power    => if isDigit b then .take (.number .power) brackets else follow brackets b

/-- What a byte does at a place. -/
def step (place : Place) (brackets : List Bracket) (b : UInt8) : Move :=
  let c := Char.ofUInt8 b
  match place with
  | .value           => if isSpace b then .take .value brackets else begin brackets b
  | .opened          => if isSpace b then .take .opened brackets else open? brackets b
  | .after           => follow brackets b
  | .key             => if isSpace b then .take .key brackets else beginKey brackets b
  | .colon           =>
    if c = ':' then .take .value brackets
    else if isSpace b then .take .colon brackets
    else .fault .expectedColon
  | .word []         => ended brackets
  | .word [l]        => if c = l then ended brackets else .fault .expectedWord
  | .word (l :: ls)  => if c = l then .take (.word ls) brackets else .fault .expectedWord
  | .string role     =>
    match c with
    | '"'  => endString brackets role
    | '\\' => .take (.escape role) brackets
    | _    => if b < 0x20 then .faultBefore .controlCharacter else .take (.string role) brackets
  | .escape role     =>
    if (escapee? c).isSome then .take (.string role) brackets
    else if c = 'u' then .take (.hex role []) brackets
    else .fault .invalidEscape
  | .hex role digits =>
    let digits := c :: digits
    if digits.length < 4 then .take (.hex role digits) brackets
    else if digits.all (Text.isDigitIn 16) then .take (.string role) brackets
    else .fault .invalidEscape
  | .number f        => figure brackets b f

/-! ## The whole value -/

/-- The fault when the text ends inside a bracket. -/
def endIn : List Bracket → Malformed
  | []            => .endInValue
  | .list :: _    => .endInList
  | .object :: _  => .endInObject

/-- What the end of the text does at a place: a fault, unless the value is whole. -/
def atEnd (place : Place) (brackets : List Bracket) : Option Malformed :=
  match place with
  | .value             => some .endInValue
  | .opened            => some (endIn brackets)
  | .after             => some (endIn brackets)
  | .key               => some .endInObject
  | .colon             => some .endInObject
  | .word _            => some .endInValue
  | .string _          => some .endInString
  | .escape _          => some .endInString
  | .hex _ _           => some .endInString
  | .number .first     => some .invalidNumber
  | .number .point     => some .invalidNumber
  | .number .exponent  => some .invalidNumber
  | .number .sign      => some .invalidNumber
  | .number _          => if brackets.isEmpty then none else some (endIn brackets)

/-- The rest after the value. -/
def run (place : Place) (brackets : List Bracket) : List UInt8 → Except Fault (List UInt8)
  | []        =>
    match atEnd place brackets with
    | none   => .ok []
    | some m => .error (.before [] m)
  | b :: rest =>
    match step place brackets b with
    | .take place brackets => run place brackets rest
    | .last                => .ok rest
    | .stop                => .ok (b :: rest)
    | .fault m             => .error (.before rest m)
    | .faultBefore m       => .error (.before (b :: rest) m)

/-- The rest after one value. -/
def value (s : List UInt8) : Except Fault (List UInt8) := run .value [] s

theorem run_length_le {place : Place} {brackets : List Bracket} {s r : List UInt8}
    (h : run place brackets s = .ok r) : r.length ≤ s.length := by
  fun_induction run place brackets s <;> (simp_all; try omega)

theorem value_length_le {s r : List UInt8} (h : value s = .ok r) : r.length ≤ s.length :=
  run_length_le h

end Gatehouse.Json.Skip
