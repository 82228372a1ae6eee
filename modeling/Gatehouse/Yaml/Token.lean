import Gatehouse.Yaml.Cursor

/-! # Tokens of YAML texts

    A text is cut into tokens.  Besides those that stand in the text there are four that
    indentation and the colon after a key bring about: a block sequence or mapping begins,
    a block ends, a key begins. -/

namespace Gatehouse.Yaml

/-- How a scalar is written. -/
inductive Style where
  | plain
  | singleQuoted
  | doubleQuoted
  | literal
  | folded
  deriving DecidableEq, Repr

/-- A tag as written: a handle, of which a directive may say what it stands for, and the
    rest. -/
structure WrittenTag where
  handle : String
  suffix : String
  deriving DecidableEq, Repr

inductive Lexeme where
  | streamEnd
  | versionDirective (major minor : Nat)
  | tagDirective (handle stem : String)
  | documentStart
  | documentEnd
  | blockSequenceStart
  | blockMappingStart
  | blockEnd
  | flowSequenceStart
  | flowSequenceEnd
  | flowMappingStart
  | flowMappingEnd
  | blockEntry
  | flowEntry
  | key
  | value
  | alias (name : String)
  | anchor (name : String)
  | tag (tag : WrittenTag)
  | scalar (text : String) (style : Style)
  deriving DecidableEq, Repr

structure Token where
  lexeme : Lexeme
  start  : Mark
  stop   : Mark
  deriving DecidableEq, Repr

/-- A scanner reads a token at a cursor. -/
abbrev Scan (α : Type) := Cursor → Except Fault (α × Cursor)

end Gatehouse.Yaml
