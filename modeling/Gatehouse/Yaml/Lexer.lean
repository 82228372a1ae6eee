import Gatehouse.Yaml.Block
import Gatehouse.Yaml.Flow
import Gatehouse.Yaml.Tag

/-! # Cutting a text into tokens

    A `Scanner` walks through a text.  It knows the indentation of the blocks around it, how
    many flow collections are open, and for each of these the place where a key may have
    begun: only the colon that follows shows that it was one.  Tokens therefore wait in a
    queue until no key can begin before them.

    `Tokens.ofText` cuts a whole text.  Where the text goes wrong the tokens before that
    place still count, and the fault follows them.

    Core Lean 4 only. -/

namespace Gatehouse.Yaml

/-- A place where a key may have begun. -/
structure KeyStart where
  /-- Has this to be a key?  Then no line may end before its colon. -/
  required : Bool
  /-- The number of the first token of the key. -/
  token    : Nat
  mark     : Mark
  deriving DecidableEq, Repr

structure Scanner where
  cursor     : Cursor
  /-- Tokens not yet handed out. -/
  queue      : List Token
  /-- The number of tokens handed out. -/
  taken      : Nat
  /-- The indentation of the innermost block; outside every block it is -1. -/
  indent     : Int
  /-- The indentations of the blocks around it, innermost first. -/
  indents    : List Int
  /-- The number of open flow collections. -/
  flow       : Nat
  /-- Where keys may have begun, one place for each open flow collection and one for the
      block around them, innermost first. -/
  keys       : List (Option KeyStart)
  /-- May a key begin here? -/
  keyAllowed : Bool
  deriving DecidableEq, Repr

namespace Scanner

def start (text : List Char) : Scanner :=
  ⟨⟨text, .start⟩, [], 0, -1, [], 0, [none], true⟩

def mark (s : Scanner) : Mark := s.cursor.mark

/-- Puts a token at the end of the queue. -/
def push (s : Scanner) (lexeme : Lexeme) (start stop : Mark) : Scanner :=
  { s with queue := s.queue ++ [⟨lexeme, start, stop⟩] }

/-- Puts a token without length before the token with the given number. -/
def insert (s : Scanner) (number : Nat) (lexeme : Lexeme) (mark : Mark) : Scanner :=
  let place := number - s.taken
  { s with queue := s.queue.take place ++ ⟨lexeme, mark, mark⟩ :: s.queue.drop place }

/-! ## Keys -/

def missingColon (s : Scanner) (k : KeyStart) : Fault :=
  s.cursor.fault .missingColon .simpleKey k.mark

/-- The longest key, in characters. -/
def longestKey : Nat := 1024

/-- A place where a key may have begun is given up after the end of its line and after
    `longestKey` characters. -/
def giveUpKeys (s : Scanner) : Except Fault Scanner := do
  let keys ← s.keys.reverse.mapM fun
    | none   => pure none
    | some k =>
      if k.mark.line < s.mark.line || k.mark.index + longestKey < s.mark.index then
        if k.required then .error (s.missingColon k) else pure none
      else pure (some k)
  return { s with keys := keys.reverse }

/-- No key begins at the innermost place. -/
def dropKey (s : Scanner) : Except Fault Scanner :=
  match s.keys with
  | some k :: keys =>
    if k.required then .error (s.missingColon k) else .ok { s with keys := none :: keys }
  | _              => .ok s

/-- A key may begin here. -/
def saveKey (s : Scanner) : Except Fault Scanner :=
  if !s.keyAllowed then .ok s
  else do
    let required := s.flow = 0 && s.indent = s.mark.column
    let key : KeyStart := ⟨required, s.taken + s.queue.length, s.mark⟩
    let s ← s.dropKey
    return { s with keys := some key :: s.keys.tail }

def setAllowed (s : Scanner) (allowed : Bool) : Scanner := { s with keyAllowed := allowed }

/-! ## Indentation -/

/-- A block begins at a column that is indented more than the block around it; its token
    goes to the end of the queue, or before the token with the given number. -/
def indentTo (s : Scanner) (column : Nat) (number : Option Nat) (lexeme : Lexeme) (mark : Mark) :
    Scanner :=
  if s.flow = 0 ∧ s.indent < column then
    let s := { s with indent := column, indents := s.indent :: s.indents }
    match number with
    | none   => s.push lexeme mark mark
    | some n => s.insert n lexeme mark
  else s

/-- Ends the blocks that are indented more than a column. -/
def endBlocks (column : Int) (m : Mark) : Int → List Int → List Token → Int × List Int × List Token
  | indent, [], ends            => (indent, [], ends)
  | indent, outer :: outers, ends =>
    if column < indent then endBlocks column m outer outers (⟨.blockEnd, m, m⟩ :: ends)
    else (indent, outer :: outers, ends)

def unindentTo (s : Scanner) (column : Int) : Scanner :=
  if s.flow ≠ 0 then s
  else
    let (indent, indents, ends) := endBlocks column s.mark s.indent s.indents []
    { s with indent := indent, indents := indents, queue := s.queue ++ ends }

/-! ## Between tokens -/

/-- The next place where a token may begin, after spacing, breaks and comments, and whether a
    key may begin there.  A tab counts as spacing only where no key may begin. -/
def nextFrom (flow : Bool) (allowed inComment : Bool) (m : Mark) : List Char → Bool × Cursor
  | []        => (allowed, ⟨[], m⟩)
  | c :: rest =>
    if c = '\r' && rest.head? == some '\n' then nextFrom flow allowed inComment m.step rest
    else if isBreak c then nextFrom flow (allowed || !flow) false m.down rest
    else if inComment then nextFrom flow allowed true (m.right 1) rest
    else if c = ' ' || (c = '\t' && (flow || !allowed)) || (c = '\ufeff' && m.index = 0) then
      nextFrom flow allowed false (m.right 1) rest
    else if c = '#' then nextFrom flow allowed true (m.right 1) rest
    else (allowed, ⟨c :: rest, m⟩)

def toNext (s : Scanner) : Scanner :=
  let (allowed, k) := nextFrom (s.flow ≠ 0) s.keyAllowed false s.mark s.cursor.rest
  { s with keyAllowed := allowed, cursor := k }

/-! ## One token -/

/-- A token that a scanner has read up to a cursor. -/
def take (s : Scanner) (lexeme : Lexeme) (after : Cursor) : Scanner :=
  { (s.push lexeme s.mark after.mark) with cursor := after }

/-- A token of one character. -/
def takeChar (s : Scanner) (lexeme : Lexeme) : Scanner := s.take lexeme (s.cursor.right 1)

def takeEnd (s : Scanner) : Except Fault Scanner := do
  let m := s.mark
  let m := if m.column = 0 then m else ⟨m.index, m.line + 1, 0⟩
  let s := { s with cursor := ⟨s.cursor.rest, m⟩ }
  let s ← (s.unindentTo (-1)).dropKey
  return (s.setAllowed false).push .streamEnd m m

def takeDirective (s : Scanner) : Except Fault Scanner := do
  let s ← (s.unindentTo (-1)).dropKey
  let (lexeme, after) ← scanDirective s.cursor
  return (s.setAllowed false).take lexeme after

def takeDocumentMark (s : Scanner) (lexeme : Lexeme) : Except Fault Scanner := do
  let s ← (s.unindentTo (-1)).dropKey
  return (s.setAllowed false).take lexeme (s.cursor.right 3)

def openFlow (s : Scanner) (lexeme : Lexeme) : Except Fault Scanner := do
  let s ← s.saveKey
  let s := { s with flow := s.flow + 1, keys := none :: s.keys }
  return (s.setAllowed true).takeChar lexeme

def closeFlow (s : Scanner) (lexeme : Lexeme) : Except Fault Scanner := do
  let s ← s.dropKey
  let s := if s.flow = 0 then s else { s with flow := s.flow - 1, keys := s.keys.tail }
  return (s.setAllowed false).takeChar lexeme

def takeFlowEntry (s : Scanner) : Except Fault Scanner := do
  let s ← s.dropKey
  return (s.setAllowed true).takeChar .flowEntry

/-- A fault of the token that begins here. -/
def misplaced (s : Scanner) (problem : Problem) : Fault := { problem := problem, mark := s.mark }

/-- A block of the given kind begins or goes on with the indicator that stands here. -/
def beginBlock (s : Scanner) (lexeme : Lexeme) (problem : Problem) : Except Fault Scanner :=
  if s.flow ≠ 0 then .ok s
  else if !s.keyAllowed then .error (s.misplaced problem)
  else .ok (s.indentTo s.mark.column none lexeme s.mark)

def takeBlockEntry (s : Scanner) : Except Fault Scanner := do
  let s ← s.beginBlock .blockSequenceStart .entryNotAllowed
  let s ← s.dropKey
  return (s.setAllowed true).takeChar .blockEntry

def takeKey (s : Scanner) : Except Fault Scanner := do
  let s ← s.beginBlock .blockMappingStart .keyNotAllowed
  let s ← s.dropKey
  return (s.setAllowed (s.flow = 0)).takeChar .key

/-- The colon of a value: what began at the innermost place was a key, if anything did. -/
def takeValue (s : Scanner) : Except Fault Scanner :=
  match s.keys with
  | some k :: keys =>
    let s := s.insert k.token .key k.mark
    let s := s.indentTo k.mark.column (some k.token) .blockMappingStart k.mark
    let s := { s with keys := none :: keys }
    .ok ((s.setAllowed false).takeChar .value)
  | _              => do
    let s ← s.beginBlock .blockMappingStart .valueNotAllowed
    return (s.setAllowed (s.flow = 0)).takeChar .value

/-- A token with which a key may begin, but after which none may. -/
def takeKeyStart (s : Scanner) (scan : Scan Lexeme) : Except Fault Scanner := do
  let s ← s.saveKey
  let (lexeme, after) ← scan s.cursor
  return (s.setAllowed false).take lexeme after

def takeQuoted (s : Scanner) (quote : Quote) (style : Style) : Except Fault Scanner :=
  s.takeKeyStart fun k => do
    let (text, k) ← scanQuoted quote k
    return (.scalar (String.ofList text) style, k)

def takePlain (s : Scanner) : Except Fault Scanner := do
  let s ← s.saveKey
  let p ← scanPlain (s.flow ≠ 0) (s.indent + 1).toNat s.cursor
  let s := s.push (.scalar (String.ofList p.text) .plain) s.mark p.stop
  return { s with keyAllowed := p.broken, cursor := p.after }

def takeBlockScalar (s : Scanner) (literal : Bool) (style : Style) : Except Fault Scanner := do
  let s ← s.dropKey
  let parent := if s.indent < 0 then none else some s.indent.toNat
  let (text, stop, after) ← scanBlock literal parent s.cursor
  let s := s.push (.scalar (String.ofList text) style) s.mark stop
  return { s with keyAllowed := true, cursor := after }

/-- Can a plain scalar begin with this text? -/
def beginsPlain (flow : Bool) : List Char → Bool
  | []        => false
  | c :: rest =>
    if c = '-' then !rest.head?.any isSpacing
    else if c = '?' || c = ':' then !flow && !endsWord rest
    else !(isBreak c || isSpacing c || c ∈ ",[]\x7b\x7d#&*!|>'\"%@`".toList)

/-- The next token goes to the end of the queue, after those that indentation brings about. -/
def fetch (s : Scanner) : Except Fault Scanner := do
  let s ← s.toNext.giveUpKeys
  let s := s.unindentTo s.mark.column
  let text := s.cursor.rest
  let flow := s.flow ≠ 0
  match text with
  | []        => s.takeEnd
  | c :: rest =>
    if s.mark.column = 0 ∧ c = '%' then s.takeDirective
    else if s.mark.column = 0 ∧ startsMark '-' text then s.takeDocumentMark .documentStart
    else if s.mark.column = 0 ∧ startsMark '.' text then s.takeDocumentMark .documentEnd
    else if c = '[' then s.openFlow .flowSequenceStart
    else if c = '\x7b' then s.openFlow .flowMappingStart
    else if c = ']' then s.closeFlow .flowSequenceEnd
    else if c = '\x7d' then s.closeFlow .flowMappingEnd
    else if c = ',' then s.takeFlowEntry
    else if c = '-' ∧ endsWord rest then s.takeBlockEntry
    else if c = '?' ∧ (flow || endsWord rest) then s.takeKey
    else if c = ':' ∧ (flow || endsWord rest) then s.takeValue
    else if c = '*' then
      s.takeKeyStart fun k => (scanName .alias k).map fun (name, k) => (.alias name, k)
    else if c = '&' then
      s.takeKeyStart fun k => (scanName .anchor k).map fun (name, k) => (.anchor name, k)
    else if c = '!' then
      s.takeKeyStart fun k => (scanTag flow k).map fun (tag, k) => (.tag tag, k)
    else if c = '|' ∧ !flow then s.takeBlockScalar true .literal
    else if c = '>' ∧ !flow then s.takeBlockScalar false .folded
    else if c = '\'' then s.takeQuoted .single .singleQuoted
    else if c = '"' then s.takeQuoted .double .doubleQuoted
    else if beginsPlain flow text then s.takePlain
    else .error (s.cursor.fault .unexpectedCharacter .nextToken s.mark)

/-- Could a key still begin before the first token of the queue? -/
def isBlocked (s : Scanner) : Bool := s.keys.any fun k => k.any (·.token = s.taken)

end Scanner

/-! ## The whole text -/

/-- The tokens of a text, up to a fault if it has one. -/
structure Tokens where
  list  : List Token
  fault : Option Fault
  deriving DecidableEq, Repr

namespace Tokens

/-- Hands out the tokens of the queue before which no key can begin; the tokens handed out,
    last first, and what remains to be done. -/
def handOut (s : Scanner) (out : List Token) : List Token → Tokens ⊕ (Scanner × List Token)
  | []     => .inr ({ s with queue := [] }, out)
  | t :: q =>
    match s.giveUpKeys with
    | .error fault => .inl ⟨out.reverse, some fault⟩
    | .ok s        =>
      if s.isBlocked then .inr ({ s with queue := t :: q }, out)
      else if t.lexeme = .streamEnd then .inl ⟨(t :: out).reverse, none⟩
      else handOut { s with taken := s.taken + 1 } (t :: out) q

/-- Scans to the end of the text; every scanned token takes a character, but the last. -/
def scan : Nat → Scanner → List Token → Tokens
  | 0, _, out        => ⟨out.reverse, none⟩
  | fuel + 1, s, out =>
    match handOut s out s.queue with
    | .inl tokens   => tokens
    | .inr (s, out) =>
      match s.fetch with
      | .error fault => ⟨out.reverse, some fault⟩
      | .ok s        => scan fuel s out

/-- A character that a text may hold. -/
def isAllowed (c : Char) : Bool :=
  let n := c.toNat
  n = 0x09 || n = 0x0a || n = 0x0d || (0x20 ≤ n && n ≤ 0x7e) || n = 0x85
    || (0xa0 ≤ n && n ≤ 0xfffd) || 0x10000 ≤ n

/-- The tokens of a text.  A text with a character that is not allowed has none. -/
def ofText (text : String) : Tokens :=
  let chars := text.toList
  let front := chars.takeWhile isAllowed
  if front.length = chars.length then scan (chars.length + 2) (.start chars) []
  else
    ⟨[], some { problem := .controlCharacter, mark := .start
                offset  := (String.ofList front).utf8ByteSize }⟩

end Tokens

end Gatehouse.Yaml
