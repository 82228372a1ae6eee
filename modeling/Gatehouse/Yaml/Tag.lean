import Gatehouse.Text.Utf8
import Gatehouse.Yaml.Token

/-! # Directives, anchors and tags

    Scanners for the tokens that are names rather than content.  A tag is written whole
    between angle brackets, or as a handle between two marks and a suffix, or as one mark
    and a suffix; octets of it may be written in hexadecimal after a percent sign. -/

namespace Gatehouse.Yaml

/-! ## Tags -/

/-- Where a tag stands. -/
inductive TagPlace where
  /-- On a node. -/
  | node
  /-- In a directive. -/
  | directive
  deriving DecidableEq, Repr

/-- A character of a tag.  Inside angle brackets the indicators of flow collections may
    stand too. -/
def isUriChar (verbatim : Bool) (c : Char) : Bool :=
  isNameChar c || c ∈ ";/?:@&=+$.%!~*'()".toList || (verbatim && c ∈ ",[]".toList)

/-- The number of octets that the first octet of a character announces. -/
def octets? (first : Nat) : Option Nat :=
  if first < 0x80 then some 1
  else if first / 0x20 = 6 then some 2
  else if first / 0x10 = 14 then some 3
  else if first / 0x08 = 30 then some 4
  else none

/-- The octets of a tag from a cursor on, after those already read (last first); `pending`
    more octets of a character in hexadecimal have to follow. -/
def uriFrom (verbatim : Bool) (place : TagPlace) (start : Mark) :
    List UInt8 → Nat → Mark → List Char → Except Fault (List UInt8 × Cursor)
  | bytes, pending, m, []        =>
    if pending = 0 then .ok (bytes.reverse, ⟨[], m⟩)
    else .error (Cursor.fault ⟨[], m⟩ .uriEscape (context place) start)
  | bytes, pending, m, c :: rest =>
    let fault (p : Problem) : Except Fault (List UInt8 × Cursor) :=
      .error (Cursor.fault ⟨c :: rest, m⟩ p (context place) start)
    if c = '%' then
      match rest with
      | a :: b :: rest =>
        match Text.number? 16 [a, b] with
        | none       => fault .uriEscape
        | some octet =>
          if pending = 0 then
            match octets? octet with
            | none   => fault .uriLeadingOctet
            | some n =>
              uriFrom verbatim place start (UInt8.ofNat octet :: bytes) (n - 1) (m.right 3) rest
          else if octet / 0x40 = 2 then
            uriFrom verbatim place start (UInt8.ofNat octet :: bytes) (pending - 1) (m.right 3) rest
          else fault .uriTrailingOctet
      | _              => fault .uriEscape
    else if pending ≠ 0 then fault .uriEscape
    else if isUriChar verbatim c then
      uriFrom verbatim place start ((Text.bytes (String.singleton c)).reverse ++ bytes) 0
        (m.right 1) rest
    else .ok (bytes.reverse, ⟨c :: rest, m⟩)
where
  context : TagPlace → Context
    | .node      => .tagParsed
    | .directive => .tagDirectiveParsed

/-- A tag or the rest of one; `head` is what was read of it as a handle, whose mark does not
    belong to it.  Octets that are no text leave the tag empty. -/
def scanUri (verbatim : Bool) (place : TagPlace) (head : List Char) (start : Mark) : Scan String :=
  fun k => do
    let front := Text.bytes (String.ofList (head.drop 1))
    let (bytes, after) ← uriFrom verbatim place start front.reverse 0 k.mark k.rest
    if head.isEmpty && bytes.isEmpty then .error (k.fault .tagUri (uriFrom.context place) start)
    else return ((Text.ofBytes? bytes).getD "", after)

/-- A mark, a name, and a second mark if there is one. -/
def scanHandle (place : TagPlace) (start : Mark) : Scan (List Char) := fun k =>
  if !k.isAt '!' then
    .error (k.fault .tagMark (if place = .directive then .handle else .tag) start)
  else
    let (name, k) := (k.right 1).span isNameChar
    if k.isAt '!' then .ok ('!' :: name ++ ['!'], k.right 1)
    else if place = .directive ∧ !name.isEmpty then .error (k.fault .tagMark .handleParsed start)
    else .ok ('!' :: name, k)

/-- Is it a handle with two marks? -/
def isHandle (h : List Char) : Bool :=
  h.head? == some '!' && 1 < h.length && h.getLast? == some '!'

/-- A tag of a node; `flow` says whether it stands in a flow collection. -/
def scanTag (flow : Bool) : Scan WrittenTag := fun k => do
  let start := k.mark
  let (tag, k) ←
    if (k.right 1).isAt '<' then do
      let (suffix, k) ← scanUri true .node [] start (k.right 2)
      if k.isAt '>' then pure (⟨"", suffix⟩, k.right 1)
      else .error (k.fault .tagClose .tag start)
    else do
      let (handle, k) ← scanHandle .node start k
      if isHandle handle then do
        let (suffix, k) ← scanUri false .node [] start k
        pure (⟨String.ofList handle, suffix⟩, k)
      else do
        let (suffix, k) ← scanUri false .node handle start k
        pure (if suffix.isEmpty then ⟨"", "!"⟩ else ⟨"!", suffix⟩, k)
  if endsWord k.rest || (flow && k.isAt ',') then return (tag, k)
  else .error (k.fault .tagEnd .tag start)

/-! ## Anchors -/

/-- A name after its indicator. -/
def scanName (context : Context) : Scan String := fun k =>
  let start := k.mark
  let (name, k) := (k.right 1).span isNameChar
  if !name.isEmpty && (endsWord k.rest || k.rest.head?.any (· ∈ "?:,]\x7d%@`".toList)) then
    .ok (String.ofList name, k)
  else .error (k.fault .anchorCharacter context start)

/-! ## Directives -/

/-- The digits of a version, at most nine. -/
def scanVersionNumber (start : Mark) : Scan Nat := fun k =>
  let (digits, after) := k.span Text.isDecimal
  if digits.isEmpty then .error (k.fault .versionNumber .versionDirective start)
  else if 9 < digits.length then
    .error ((k.right 9).fault .versionLength .versionDirective start)
  else .ok (Text.ofDigits 10 digits, after)

def scanVersion (start : Mark) : Scan Lexeme := fun k => do
  let (major, k) ← scanVersionNumber start k.spacing
  if !k.isAt '.' then .error (k.fault .versionDigit .versionDirective start)
  else do
    let (minor, k) ← scanVersionNumber start (k.right 1)
    return (.versionDirective major minor, k)

def scanTagDirective (start : Mark) : Scan Lexeme := fun k => do
  let (handle, k) ← scanHandle .directive start k.spacing
  if !k.rest.head?.any isSpacing then .error (k.fault .directiveSpace .tagDirective start)
  else do
    let (stem, k) ← scanUri true .directive [] start k.spacing
    if endsWord k.rest then return (.tagDirective (String.ofList handle) stem, k)
    else .error (k.fault .directiveEnd .tagDirective start)

/-- A directive, to the end of its line. -/
def scanDirective : Scan Lexeme := fun k => do
  let start := k.mark
  let (name, k) := (k.right 1).span isNameChar
  if name.isEmpty then .error (k.fault .directiveName .directive start)
  else if !endsWord k.rest then .error (k.fault .directiveCharacter .directive start)
  else do
    let (lexeme, k) ←
      match String.ofList name with
      | "YAML" => scanVersion start k
      | "TAG"  => scanTagDirective start k
      | _      => .error (k.fault .unknownDirective .directive start)
    let k := k.spacing.comment
    if endsLine k.rest then return (lexeme, k.line)
    else .error (k.fault .commentOrBreak .directive start)

end Gatehouse.Yaml
