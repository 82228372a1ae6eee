import Gatehouse.Text.Digit

/-! # Faults of YAML texts

    A text that is no YAML has a `Fault`: a problem, the place where it was met and, for
    most problems, what was being read and where that began.

    Core Lean 4 only. -/

namespace Gatehouse.Yaml

/-- A place in a text: characters from the start, lines, and characters on the line, each
    counted from zero. -/
structure Mark where
  index  : Nat
  line   : Nat
  column : Nat
  deriving DecidableEq, Repr

namespace Mark

def start : Mark := ⟨0, 0, 0⟩

/-- The place `n` characters further on the same line. -/
def right (m : Mark) (n : Nat) : Mark := ⟨m.index + n, m.line, m.column + n⟩

/-- The start of the next line, after a break of one character. -/
def down (m : Mark) : Mark := ⟨m.index + 1, m.line + 1, 0⟩

/-- The same place after a character that takes no room of its own. -/
def step (m : Mark) : Mark := { m with index := m.index + 1 }

/-- The first place of a text is never told. -/
def isTold (m : Mark) : Bool := m.line ≠ 0 || m.column ≠ 0

/-- Lines and columns are told counted from one. -/
def words (m : Mark) : String :=
  "line " ++ toString (m.line + 1) ++ " column " ++ toString (m.column + 1)

end Mark

/-! ## Problems -/

/-- What is wrong at a place. -/
inductive Problem where
  /-- A character that no YAML text holds. -/
  | controlCharacter
  | unexpectedCharacter
  | missingColon
  | entryNotAllowed
  | keyNotAllowed
  | valueNotAllowed
  -- directives
  | unknownDirective
  | directiveName
  | directiveCharacter
  | commentOrBreak
  | versionDigit
  | versionNumber
  | versionLength
  | directiveSpace
  | directiveEnd
  -- anchors and tags
  | anchorCharacter
  | tagMark
  | tagClose
  | tagEnd
  | tagUri
  | uriEscape
  | uriLeadingOctet
  | uriTrailingOctet
  -- scalars
  | zeroIndentation
  | tabIndentation
  | tabViolation
  | documentMark
  | endOfStream
  | unknownEscape
  | hexadecimal
  | codePoint
  | colonInFlow
  -- the order of tokens
  | expectedDocumentStart
  | duplicateVersion
  | incompatibleVersion
  | duplicateTag
  | undefinedTag
  | expectedContent
  | expectedDash
  | expectedKey
  | expectedCommaOrBracket
  | expectedCommaOrBrace
  -- the whole document
  | unknownAnchor
  | manyDocuments
  deriving DecidableEq, Repr

def Problem.message : Problem → String
  | .controlCharacter       => "control characters are not allowed"
  | .unexpectedCharacter    => "found character that cannot start any token"
  | .missingColon           => "could not find expected ':'"
  | .entryNotAllowed        => "block sequence entries are not allowed in this context"
  | .keyNotAllowed          => "mapping keys are not allowed in this context"
  | .valueNotAllowed        => "mapping values are not allowed in this context"
  | .unknownDirective       => "found unknown directive name"
  | .directiveName          => "could not find expected directive name"
  | .directiveCharacter     => "found unexpected non-alphabetical character"
  | .commentOrBreak         => "did not find expected comment or line break"
  | .versionDigit           => "did not find expected digit or '.' character"
  | .versionNumber          => "did not find expected version number"
  | .versionLength          => "found extremely long version number"
  | .directiveSpace         => "did not find expected whitespace"
  | .directiveEnd           => "did not find expected whitespace or line break"
  | .anchorCharacter        => "did not find expected alphabetic or numeric character"
  | .tagMark                => "did not find expected '!'"
  | .tagClose               => "did not find the expected '>'"
  | .tagEnd                 => "did not find expected whitespace or line break"
  | .tagUri                 => "did not find expected tag URI"
  | .uriEscape              => "did not find URI escaped octet"
  | .uriLeadingOctet        => "found an incorrect leading UTF-8 octet"
  | .uriTrailingOctet       => "found an incorrect trailing UTF-8 octet"
  | .zeroIndentation        => "found an indentation indicator equal to 0"
  | .tabIndentation         => "found a tab character where an indentation space is expected"
  | .tabViolation           => "found a tab character that violates indentation"
  | .documentMark           => "found unexpected document indicator"
  | .endOfStream            => "found unexpected end of stream"
  | .unknownEscape          => "found unknown escape character"
  | .hexadecimal            => "did not find expected hexdecimal number"
  | .codePoint              => "found invalid Unicode character escape code"
  | .colonInFlow            => "found unexpected ':'"
  | .expectedDocumentStart  => "did not find expected <document start>"
  | .duplicateVersion       => "found duplicate %YAML directive"
  | .incompatibleVersion    => "found incompatible YAML document"
  | .duplicateTag           => "found duplicate %TAG directive"
  | .undefinedTag           => "found undefined tag handle"
  | .expectedContent        => "did not find expected node content"
  | .expectedDash           => "did not find expected '-' indicator"
  | .expectedKey            => "did not find expected key"
  | .expectedCommaOrBracket => "did not find expected ',' or ']'"
  | .expectedCommaOrBrace   => "did not find expected ',' or '\x7d'"
  | .unknownAnchor          => "unknown anchor"
  | .manyDocuments          =>
    "deserializing from YAML containing more than one document is not supported"

/-- What was being read. -/
inductive Context where
  | nextToken
  | simpleKey
  | directive
  | versionDirective
  | tagDirective
  | tagDirectiveParsed
  | handle
  | handleParsed
  | anchor
  | alias
  | tag
  | tagParsed
  | blockScalar
  | quotedScalar
  | quotedScalarParsed
  | plainScalar
  | node
  | blockNode
  | flowNode
  | blockCollection
  | blockMapping
  | flowSequence
  | flowMapping
  deriving DecidableEq, Repr

def Context.message : Context → String
  | .nextToken          => "while scanning for the next token"
  | .simpleKey          => "while scanning a simple key"
  | .directive          => "while scanning a directive"
  | .versionDirective   => "while scanning a %YAML directive"
  | .tagDirective       => "while scanning a %TAG directive"
  | .tagDirectiveParsed => "while parsing a %TAG directive"
  | .handle             => "while scanning a tag directive"
  | .handleParsed       => "while parsing a tag directive"
  | .anchor             => "while scanning an anchor"
  | .alias              => "while scanning an alias"
  | .tag                => "while scanning a tag"
  | .tagParsed          => "while parsing a tag"
  | .blockScalar        => "while scanning a block scalar"
  | .quotedScalar       => "while scanning a quoted scalar"
  | .quotedScalarParsed => "while parsing a quoted scalar"
  | .plainScalar        => "while scanning a plain scalar"
  | .node               => "while parsing a node"
  | .blockNode          => "while parsing a block node"
  | .flowNode           => "while parsing a flow node"
  | .blockCollection    => "while parsing a block collection"
  | .blockMapping       => "while parsing a block mapping"
  | .flowSequence       => "while parsing a flow sequence"
  | .flowMapping        => "while parsing a flow mapping"

/-- Why a text is no YAML. -/
structure Fault where
  problem : Problem
  mark    : Mark
  context : Option (Context × Mark) := none
  /-- The bytes before the problem, where it has no line. -/
  offset  : Nat := 0
  deriving DecidableEq, Repr

/-- The fault in words: the problem, what was being read, and the places of both. -/
def Fault.message (f : Fault) : String :=
  f.problem.message
    ++ (if f.mark.isTold then " at " ++ f.mark.words
        else if f.offset ≠ 0 then " at position " ++ toString f.offset
        else "")
    ++ (match f.context with
        | none           => ""
        | some (c, mark) =>
          ", " ++ c.message
            ++ (if mark.isTold && (mark.line, mark.column) ≠ (f.mark.line, f.mark.column) then
                  " at " ++ mark.words
                else ""))

end Gatehouse.Yaml
