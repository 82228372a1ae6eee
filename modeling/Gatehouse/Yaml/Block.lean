import Gatehouse.Text.Digit
import Gatehouse.Yaml.Token

/-! # Block scalars

    A block scalar is the indented lines after its header.  A literal one keeps its line
    ends, a folded one joins lines that do not begin with spacing.  The header may give the
    indentation, and say whether the breaks at the end are kept or dropped.

    Core Lean 4 only. -/

namespace Gatehouse.Yaml

/-- What becomes of the breaks at the end. -/
inductive Chomping where
  /-- None is kept. -/
  | strip
  /-- The first is kept. -/
  | clip
  | keep
  deriving DecidableEq, Repr

/-! ## The header -/

structure BlockHeader where
  chomping : Chomping
  /-- The indentation relative to the parent, if it is given. -/
  indent   : Option Nat
  deriving DecidableEq, Repr

def scanChomping (k : Cursor) : Option Chomping × Cursor :=
  if k.isAt '+' then (some .keep, k.right 1)
  else if k.isAt '-' then (some .strip, k.right 1)
  else (none, k)

def scanIndent (start : Mark) : Scan (Option Nat) := fun k =>
  match k.rest with
  | c :: _ =>
    if c = '0' then .error (k.fault .zeroIndentation .blockScalar start)
    else if Text.isDecimal c then .ok (some (Text.ofDigits 10 [c]), k.right 1)
    else .ok (none, k)
  | []     => .ok (none, k)

/-- The header after its indicator, to the end of its line. -/
def scanBlockHeader (start : Mark) : Scan BlockHeader := fun k => do
  let (before, k) := scanChomping k
  let (indent, k) ← scanIndent start k
  let (chomping, k) :=
    match before, indent with
    | none, some _ => scanChomping k
    | _, _         => (before, k)
  let k := k.spacing.comment
  if endsLine k.rest then return (⟨chomping.getD .clip, indent⟩, k.line)
  else .error (k.fault .commentOrBreak .blockScalar start)

/-! ## The lines -/

/-- What was read of a block scalar. -/
structure BlockText where
  /-- The text so far, last first. -/
  text         : List Char
  /-- The break of the last line with content. -/
  last         : Option Char
  /-- The breaks of the empty lines after it, last first. -/
  blank        : List Char
  /-- Did the last line with content begin with spacing? -/
  spaced       : Bool
  /-- The greatest indentation of the lines before the first with content. -/
  widest       : Nat
  deriving DecidableEq, Repr

namespace BlockText

def empty : BlockText := ⟨[], none, [], false, 0⟩

/-- A line with content begins. -/
def beginLine (b : BlockText) (literal spaced : Bool) : BlockText :=
  let joint :=
    if !literal && b.last = some '\n' && !b.spaced && !spaced then
      if b.blank.isEmpty then [' '] else []
    else b.last.toList
  { b with text := b.blank ++ joint ++ b.text, last := none, blank := [], spaced := spaced }

/-- The whole text, its end chomped. -/
def chomped (b : BlockText) (chomping : Chomping) : List Char :=
  b.text.reverse
    ++ (if chomping = .strip then [] else b.last.toList)
    ++ (if chomping = .keep then b.blank.reverse else [])

end BlockText

/-- The indentation of a block scalar. -/
inductive Indent where
  /-- Not yet known; it is at least this. -/
  | atLeast (n : Nat)
  | known (n : Nat)
  deriving DecidableEq, Repr

/-- Can a space at the column still belong to the indentation? -/
def Indent.reaches (i : Indent) (column : Nat) : Bool :=
  match i with
  | .atLeast _ => true
  | .known n   => column < n

/-- The indentation as the first line with content shows it. -/
def Indent.settled (i : Indent) (widest : Nat) : Nat :=
  match i with
  | .atLeast n => max n widest
  | .known n   => n

/-- The lines of a block scalar from a place on; `inLine` says whether the next character
    belongs to the content of a line.  The second mark is the end of the scalar. -/
def blockFrom (literal : Bool) (start : Mark) (indent : Indent) (b : BlockText) (inLine : Bool)
    (stop m : Mark) : List Char → Except Fault (BlockText × Mark × Cursor)
  | []        => .ok (b, if inLine then m else stop, ⟨[], m⟩)
  | c :: rest =>
    if c = '\r' && rest.head? == some '\n' then
      blockFrom literal start indent b inLine stop m.step rest
    else if inLine then
      if isBreak c then
        blockFrom literal start indent { b with last := some (keptBreak c) } false m.down m.down rest
      else
        blockFrom literal start indent { b with text := c :: b.text } true stop (m.right 1) rest
    else if c = ' ' && indent.reaches m.column then
      blockFrom literal start indent b false stop (m.right 1) rest
    else
      let b := { b with widest := max b.widest m.column }
      if c = '\t' && indent.reaches m.column then
        .error (Cursor.fault ⟨c :: rest, m⟩ .tabIndentation .blockScalar start)
      else if isBreak c then
        blockFrom literal start indent { b with blank := keptBreak c :: b.blank } false m.down
          m.down rest
      else
        let n := indent.settled b.widest
        if m.column = n then
          let b := b.beginLine literal (isSpacing c)
          blockFrom literal start (.known n) { b with text := c :: b.text } true stop (m.right 1)
            rest
        else .ok (b, stop, ⟨c :: rest, m⟩)

/-- A block scalar at its indicator, whose parent has the given indentation, if any. -/
def scanBlock (literal : Bool) (parent : Option Nat) (k : Cursor) :
    Except Fault (List Char × Mark × Cursor) := do
  let (header, after) ← scanBlockHeader k.mark (k.right 1)
  let indent : Indent :=
    match header.indent, parent with
    | some n, some p => .known (p + n)
    | some n, none   => .known n
    | none, some p   => .atLeast (p + 1)
    | none, none     => .atLeast 1
  let (b, stop, after) ← blockFrom literal k.mark indent .empty false after.mark after.mark after.rest
  return (b.chomped header.chomping, stop, after)

end Gatehouse.Yaml
