import Gatehouse.Text.Digit
import Gatehouse.Yaml.Token

/-! # Plain and quoted scalars

    Plain and quoted scalars may run over several lines.  What lies between two words is a
    `Gap`: within a line its spacing is kept, over a line end it is folded, so that one break
    becomes a space and of several breaks all but the first are kept.

    Both scanners take one character at a time.

    Core Lean 4 only. -/

namespace Gatehouse.Yaml

/-! ## Gaps -/

/-- What lies between two words of a scalar; lists have the last character first. -/
structure Gap where
  spacing : List Char
  /-- Has a line ended? -/
  broken  : Bool
  /-- The first break, if it counts. -/
  first   : Option Char
  later   : List Char
  deriving DecidableEq, Repr

namespace Gap

def empty : Gap := ⟨[], false, none, []⟩

/-- A line ends without leaving a break behind. -/
def escapedBreak : Gap := ⟨[], true, none, []⟩

/-- One more space or tab, which counts only if no line has ended. -/
def space (g : Gap) (c : Char) : Gap := if g.broken then g else { g with spacing := c :: g.spacing }

/-- One more break. -/
def newline (g : Gap) (c : Char) : Gap :=
  if g.broken then { g with later := keptBreak c :: g.later }
  else { g with spacing := [], broken := true, first := some (keptBreak c) }

/-- What the gap leaves between the words. -/
def joined (g : Gap) : List Char :=
  if !g.broken then g.spacing.reverse
  else if g.first = some '\n' then
    if g.later.isEmpty then [' '] else g.later.reverse
  else g.first.toList ++ g.later.reverse

end Gap

/-! ## Plain scalars -/

/-- A scanned plain scalar. -/
structure PlainScalar where
  text   : List Char
  /-- The place after its last character. -/
  stop   : Mark
  /-- Did a line end after it? -/
  broken : Bool
  after  : Cursor
  deriving DecidableEq, Repr

/-- Does a plain scalar end before this text, in a word? -/
def endsPlain (flow : Bool) : List Char → Bool
  | []        => true
  | c :: rest => (c = ':' && endsWord rest) || (flow && c ∈ ",[]\x7b\x7d".toList)

/-- A colon that no plain scalar in a flow collection may hold. -/
def misplacedColon (flow : Bool) : List Char → Bool
  | ':' :: c :: _ => flow && c ∈ ",?[]\x7b\x7d".toList
  | _             => false

/-- A plain scalar from a place on.  `words` is what was read of it, last first; between it
    and the rest lies `gap`, and `inGap` says whether that has begun.  Outside flow
    collections the scalar ends before a line that is indented less than `indent`. -/
def plainFrom (flow : Bool) (indent : Nat) (start : Mark) (words : List Char) (gap : Gap)
    (inGap : Bool) (stop m : Mark) : List Char → Except Fault PlainScalar
  | []        => .ok ⟨words.reverse, stop, gap.broken, ⟨[], m⟩⟩
  | c :: rest =>
    let done : Except Fault PlainScalar := .ok ⟨words.reverse, stop, gap.broken, ⟨c :: rest, m⟩⟩
    let fault (p : Problem) : Except Fault PlainScalar :=
      .error (Cursor.fault ⟨c :: rest, m⟩ p .plainScalar start)
    if isSpacing c then
      if gap.broken && m.column < indent && c = '\t' then fault .tabViolation
      else plainFrom flow indent start words (gap.space c) true stop (m.right 1) rest
    else if c = '\r' && rest.head? == some '\n' then
      plainFrom flow indent start words gap inGap stop m.step rest
    else if isBreak c then
      plainFrom flow indent start words (gap.newline c) true stop m.down rest
    else if inGap && ((!flow && m.column < indent)
        || (m.column = 0 && startsDocumentMark (c :: rest)) || c = '#') then done
    else if misplacedColon flow (c :: rest) then fault .colonInFlow
    else if endsPlain flow (c :: rest) then done
    else
      plainFrom flow indent start (c :: (gap.joined.reverse ++ words)) .empty false (m.right 1)
        (m.right 1) rest

/-- A plain scalar at a cursor; `indent` is the least indentation of its later lines. -/
def scanPlain (flow : Bool) (indent : Nat) (k : Cursor) : Except Fault PlainScalar :=
  plainFrom flow indent k.mark [] .empty false k.mark k.mark k.rest

/-! ## Quoted scalars -/

inductive Quote where
  | single
  | double
  deriving DecidableEq, Repr

def Quote.char : Quote → Char
  | .single => '\''
  | .double => '"'

/-- What a letter after a backslash stands for. -/
def escapee? (c : Char) : Option Char :=
  match c with
  | '0'  => some '\x00'
  | 'a'  => some '\x07'
  | 'b'  => some '\x08'
  | 't'  => some '\t'
  | '\t' => some '\t'
  | 'n'  => some '\n'
  | 'v'  => some '\x0b'
  | 'f'  => some '\x0c'
  | 'r'  => some '\r'
  | 'e'  => some '\x1b'
  | ' '  => some ' '
  | '"'  => some '"'
  | '/'  => some '/'
  | '\\' => some '\\'
  | 'N'  => some '\u0085'
  | '_'  => some '\u00a0'
  | 'L'  => some '\u2028'
  | 'P'  => some '\u2029'
  | _    => none

/-- The number of digits that a letter after a backslash asks for. -/
def digitsAfter? (c : Char) : Option Nat :=
  match c with
  | 'x' => some 2
  | 'u' => some 4
  | 'U' => some 8
  | _   => none

/-- Where in a quoted scalar the next character stands. -/
inductive Spot where
  | word
  | gap
  /-- Right after a quote that may be the first of two. -/
  | quote
  /-- Right after a backslash, which stands at the mark. -/
  | escape (mark : Mark)
  /-- Among the digits of an escape: how many are left, those read (last first), and where
      they began. -/
  | hex (left : Nat) (digits : List Char) (mark : Mark)
  deriving DecidableEq, Repr

/-- A code point that an escape may name. -/
def isCodePoint (n : Nat) : Bool := n < 0xd800 || (0xdfff < n && n ≤ 0x10ffff)

/-- A quoted scalar from a place on, to the end of its closing quote.  `text` is what was read
    of it, last first, up to `gap`. -/
def quotedFrom (quote : Quote) (start : Mark) (text : List Char) (gap : Gap) (spot : Spot)
    (m : Mark) : List Char → Except Fault (List Char × Cursor)
  | []        =>
    match spot with
    | .quote        => .ok (text.reverse, ⟨[], m⟩)
    | .escape mark  => .error ⟨.unknownEscape, mark, some (.quotedScalarParsed, start), 0⟩
    | .hex _ _ mark => .error ⟨.hexadecimal, mark, some (.quotedScalarParsed, start), 0⟩
    | _             => .error (Cursor.fault ⟨[], m⟩ .endOfStream .quotedScalar start)
  | c :: rest =>
    let fault (p : Problem) (mark : Mark) : Except Fault (List Char × Cursor) :=
      .error ⟨p, mark, some (.quotedScalarParsed, start), 0⟩
    match spot with
    | .quote           =>
      if c = '\'' then quotedFrom quote start ('\'' :: text) .empty .word (m.right 1) rest
      else .ok (text.reverse, ⟨c :: rest, m⟩)
    | .escape mark     =>
      if c = '\r' && rest.head? == some '\n' then
        quotedFrom quote start text .empty (.escape mark) m.step rest
      else if isBreak c then quotedFrom quote start text .escapedBreak .gap m.down rest
      else
        match escapee? c, digitsAfter? c with
        | some e, _      => quotedFrom quote start (e :: text) .empty .word (m.right 1) rest
        | none, some n   =>
          quotedFrom quote start text .empty (.hex n [] (m.right 1)) (m.right 1) rest
        | none, none     => fault .unknownEscape mark
    | .hex left digits mark =>
      if !Text.isDigitIn 16 c then fault .hexadecimal mark
      else if 1 < left then
        quotedFrom quote start text .empty (.hex (left - 1) (c :: digits) mark) (m.right 1) rest
      else
        let n := Text.ofDigits 16 (c :: digits).reverse
        if isCodePoint n then
          quotedFrom quote start (Char.ofNat n :: text) .empty .word (m.right 1) rest
        else fault .codePoint mark
    | _                =>
      if isSpacing c then quotedFrom quote start text (gap.space c) .gap (m.right 1) rest
      else if c = '\r' && rest.head? == some '\n' then
        quotedFrom quote start text gap spot m.step rest
      else if isBreak c then quotedFrom quote start text (gap.newline c) .gap m.down rest
      else if m.column = 0 && startsDocumentMark (c :: rest) then
        .error (Cursor.fault ⟨c :: rest, m⟩ .documentMark .quotedScalar start)
      else
        let text := gap.joined.reverse ++ text
        if c = quote.char then
          match quote with
          | .double => .ok (text.reverse, ⟨rest, m.right 1⟩)
          | .single => quotedFrom quote start text .empty .quote (m.right 1) rest
        else if quote = .double ∧ c = '\\' then
          quotedFrom quote start text .empty (.escape m) (m.right 1) rest
        else quotedFrom quote start (c :: text) .empty .word (m.right 1) rest

/-- A quoted scalar at its opening quote. -/
def scanQuoted (quote : Quote) : Scan (List Char) := fun k =>
  quotedFrom quote k.mark [] .empty .word (k.mark.right 1) (k.rest.drop 1)

end Gatehouse.Yaml
