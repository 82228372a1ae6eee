import Gatehouse.Yaml.Fault

/-! # Cursors in YAML texts

    A cursor is what is left of a text and the place where it begins.  Besides the classes of
    characters on which YAML is built, this module holds the moves that all scanners share.

    Core Lean 4 only. -/

namespace Gatehouse.Yaml

/-! ## Classes of characters -/

/-- A line break, of which there are five. -/
def isBreak (c : Char) : Bool :=
  c = '\n' || c = '\r' || c = '\u0085' || c = '\u2028' || c = '\u2029'

/-- A space or a tab. -/
def isSpacing (c : Char) : Bool := c = ' ' || c = '\t'

/-- A character of a name: a letter, a digit, a low line or a hyphen. -/
def isNameChar (c : Char) : Bool :=
  c.isAlphanum || c = '_' || c = '-'

/-- Does a word end here: at the end, a break or spacing? -/
def endsWord : List Char → Bool
  | []     => true
  | c :: _ => isBreak c || isSpacing c

/-- Does a line end here? -/
def endsLine : List Char → Bool
  | []     => true
  | c :: _ => isBreak c

/-- How a break is kept: as a line feed, but for the two separators that stand for
    themselves. -/
def keptBreak (c : Char) : Char := if c = '\u2028' || c = '\u2029' then c else '\n'

/-- Three given characters that end a word. -/
def startsMark (c : Char) : List Char → Bool
  | a :: b :: d :: rest => a = c && b = c && d = c && endsWord rest
  | _                   => false

/-- The mark between two documents, `---` or `...`. -/
def startsDocumentMark (s : List Char) : Bool := startsMark '-' s || startsMark '.' s

/-! ## Cursors -/

/-- What is left of a text, and where it begins. -/
structure Cursor where
  rest : List Char
  mark : Mark
  deriving DecidableEq, Repr

namespace Cursor

/-- Is `c` the next character? -/
def isAt (k : Cursor) (c : Char) : Bool := k.rest.head? == some c

/-- The cursor after `n` characters that are no breaks. -/
def right (k : Cursor) (n : Nat) : Cursor := ⟨k.rest.drop n, k.mark.right n⟩

/-- The cursor after one line break, if there is one; a carriage return and a line feed are
    one break of two characters. -/
def line (k : Cursor) : Cursor :=
  match k.rest with
  | '\r' :: '\n' :: rest => ⟨rest, k.mark.step.down⟩
  | c :: rest            => if isBreak c then ⟨rest, k.mark.down⟩ else k
  | []                   => k

/-- The longest front of characters that are in the class and no breaks, and what follows. -/
def span (p : Char → Bool) (k : Cursor) : List Char × Cursor :=
  let front := k.rest.takeWhile fun c => p c && !isBreak c
  (front, k.right front.length)

/-- The cursor after spaces and tabs. -/
def spacing (k : Cursor) : Cursor := (k.span isSpacing).2

/-- The cursor after a comment, which reaches to the end of its line. -/
def comment (k : Cursor) : Cursor := if k.isAt '#' then (k.span fun _ => true).2 else k

/-- A fault here, in something that began at `start`. -/
def fault (k : Cursor) (problem : Problem) (context : Context) (start : Mark) : Fault :=
  { problem := problem, mark := k.mark, context := some (context, start) }

end Cursor

end Gatehouse.Yaml
