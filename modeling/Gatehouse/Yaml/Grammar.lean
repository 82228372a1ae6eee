import Gatehouse.Yaml.Node

/-! # From tokens to nodes

    `Document.ofText` reads a text as one document.  Every reader here returns what it read
    together with either the state after it or the fault at which the text broke off, so
    that what came before a fault is kept.

    Main statement of the design: a reader asks for a token only when the tokens before it
    are used up.  A fault that lies further on therefore never hides a node before it. -/

namespace Gatehouse.Yaml

namespace Grammar

/-! ## States -/

structure State where
  /-- The tokens not yet used. -/
  tokens : List Token
  /-- The fault after the last token. -/
  fault  : Fault
  /-- What the handles of tags stand for. -/
  tags   : List (String × String)
  /-- The names of anchors and their slots. -/
  names  : List (String × Nat)

/-- What was read, and the state after it or the fault that ended it. -/
abbrev Part (α : Type) := α × Except Fault State

namespace State

/-- The next token. -/
def peek (s : State) : Except Fault Token :=
  match s.tokens with
  | []     => .error s.fault
  | t :: _ => .ok t

def skip (s : State) : State := { s with tokens := s.tokens.tail }

/-- Gives a name the next slot; its former slot, if any, is forgotten. -/
def name (s : State) (name : String) : Nat × State :=
  let slot := s.names.length
  let names :=
    if (s.names.lookup name).isSome then
      s.names.map fun (n, old) => (n, if n = name then slot else old)
    else (name, slot) :: s.names
  (slot, { s with names := names })

end State

/-- The handles that every document knows. -/
def defaultTags : List (String × String) := [("!", "!"), ("!!", "tag:yaml.org,2002:")]

/-! ## Properties of nodes -/

/-- The anchor and the tag before a node's content. -/
structure Written where
  anchor : Option String
  tag    : Option (WrittenTag × Mark)
  /-- Where the node begins. -/
  mark   : Mark

def readAnchor (s : State) : Except Fault (Option String × State) := do
  let t ← s.peek
  match t.lexeme with
  | .anchor name => return (some name, s.skip)
  | _            => return (none, s)

def readTag (s : State) : Except Fault (Option (WrittenTag × Mark) × State) := do
  let t ← s.peek
  match t.lexeme with
  | .tag tag => return (some (tag, t.start), s.skip)
  | _        => return (none, s)

/-- An anchor and a tag, each of which may be absent, in either order. -/
def readWritten (s : State) : Except Fault (Written × State) := do
  let t ← s.peek
  match t.lexeme with
  | .tag _ => do
    let (tag, s) ← readTag s
    let (anchor, s) ← readAnchor s
    return (⟨anchor, tag, t.start⟩, s)
  | _      => do
    let (anchor, s) ← readAnchor s
    let (tag, s) ← if anchor.isSome then readTag s else pure (none, s)
    return (⟨anchor, tag, t.start⟩, s)

/-- The tag with its handle replaced by what it stands for; an empty tag is none. -/
def resolveTag (s : State) (w : Written) : Except Fault (Option String) :=
  match w.tag with
  | none             => .ok none
  | some (tag, mark) =>
    if tag.handle.isEmpty then .ok (some tag.suffix)
    else
      match s.tags.lookup tag.handle with
      | some stem => .ok (some (stem ++ tag.suffix))
      | none      => .error ⟨.undefinedTag, mark, some (.node, w.mark), 0⟩

/-- The properties of a node that begins here, and the state in which its name is known. -/
def readProperties (s : State) : Except Fault (Written × Properties × State) := do
  let (w, s) ← readWritten s
  let tag ← resolveTag s w
  match w.anchor with
  | none      => return (w, ⟨none, tag, w.mark⟩, s)
  | some name =>
    let (slot, s) := s.name name
    return (w, ⟨some slot, tag, w.mark⟩, s)

/-- The tag of a scalar with content: the tag `!` only says what is so without it. -/
def scalarTag (p : Properties) : Properties :=
  { p with tag := if p.tag = some "!" then none else p.tag }

/-! ## Nodes -/

/-- Does one of the tokens come next? -/
def isNext (t : Token) (lexemes : List Lexeme) : Bool := t.lexeme ∈ lexemes

/-- A fault at a token, in something that began at `start`. -/
def unexpected (t : Token) (problem : Problem) (context : Context) (start : Mark) : Fault :=
  ⟨problem, t.start, some (context, start), 0⟩

mutual

/-- A node.  `block` says whether it may be a block collection, `indentless` whether entries
    that begin here, though indented no more than the block around them, are its items. -/
def node (block indentless : Bool) : Nat → State → Part Node
  | 0, s        => (.missing, .error s.fault)
  | fuel + 1, s =>
    match s.peek with
    | .error f => (.missing, .error f)
    | .ok t    =>
      match t.lexeme with
      | .alias name =>
        match s.names.lookup name with
        | some slot => (.alias slot t.start, .ok s.skip)
        | none      => (.missing, .error { problem := .unknownAnchor, mark := t.start })
      | _           =>
        match readProperties s with
        | .error f      => (.missing, .error f)
        | .ok (w, p, s) => content block indentless w p fuel s

/-- The content of a node after its properties. -/
def content (block indentless : Bool) (w : Written) (p : Properties) : Nat → State → Part Node
  | 0, s        => (.missing, .error s.fault)
  | fuel + 1, s =>
    match s.peek with
    | .error f => (.missing, .error f)
    | .ok t    =>
      let sequence (r : Part (List Node × Bool)) : Part Node :=
        (.sequence p r.1.1 r.1.2, r.2)
      let mapping (r : Part (List (Node × Node) × Bool)) : Part Node :=
        (.mapping p r.1.1 r.1.2, r.2)
      match t.lexeme, block with
      | .scalar text style, _       => (.scalar (scalarTag p) text style, .ok s.skip)
      | .flowSequenceStart, _       => sequence (flowItems t.start true [] fuel s.skip)
      | .flowMappingStart, _        => mapping (flowEntries t.start true [] fuel s.skip)
      | .blockSequenceStart, true   => sequence (blockItems t.start [] fuel s.skip)
      | .blockMappingStart, true    => mapping (blockEntries t.start [] fuel s.skip)
      | lexeme, _                   =>
        if indentless ∧ lexeme = .blockEntry then sequence (indentlessItems [] fuel s)
        else if w.anchor.isSome || w.tag.isSome then (.scalar p "" .plain, .ok s)
        else
          (.missing, .error (unexpected t .expectedContent
            (if block then .blockNode else .flowNode) w.mark))

/-- A node, unless one of the given tokens comes next: then there is nothing, at a mark. -/
def nodeUnless (ends : List Lexeme) (block indentless : Bool) (mark : Mark) :
    Nat → State → Part Node
  | 0, s        => (.missing, .error s.fault)
  | fuel + 1, s =>
    match s.peek with
    | .error f => (.missing, .error f)
    | .ok t    =>
      if isNext t ends then (.nothing mark, .ok s) else node block indentless fuel s

/-- The items of a block sequence after those already read, last first. -/
def blockItems (start : Mark) (found : List Node) : Nat → State → Part (List Node × Bool)
  | 0, s        => ((found.reverse, false), .error s.fault)
  | fuel + 1, s =>
    match s.peek with
    | .error f => ((found.reverse, false), .error f)
    | .ok t    =>
      match t.lexeme with
      | .blockEntry =>
        match nodeUnless [.blockEntry, .blockEnd] true false t.stop fuel s.skip with
        | (n, .error f) => (((n :: found).reverse, false), .error f)
        | (n, .ok s)    => blockItems start (n :: found) fuel s
      | .blockEnd   => ((found.reverse, true), .ok s.skip)
      | _           =>
        ((found.reverse, false), .error (unexpected t .expectedDash .blockCollection start))

/-- The items of a sequence without indentation of its own. -/
def indentlessItems (found : List Node) : Nat → State → Part (List Node × Bool)
  | 0, s        => ((found.reverse, false), .error s.fault)
  | fuel + 1, s =>
    match s.peek with
    | .error f => ((found.reverse, false), .error f)
    | .ok t    =>
      match t.lexeme with
      | .blockEntry =>
        match nodeUnless [.blockEntry, .key, .value, .blockEnd] true false t.stop fuel s.skip with
        | (n, .error f) => (((n :: found).reverse, false), .error f)
        | (n, .ok s)    => indentlessItems (n :: found) fuel s
      | _           => ((found.reverse, true), .ok s)

/-- The entries of a block mapping after those already read, last first. -/
def blockEntries (start : Mark) (found : List (Node × Node)) :
    Nat → State → Part (List (Node × Node) × Bool)
  | 0, s        => ((found.reverse, false), .error s.fault)
  | fuel + 1, s =>
    let ends : List Lexeme := [.key, .value, .blockEnd]
    match s.peek with
    | .error f => ((found.reverse, false), .error f)
    | .ok t    =>
      match t.lexeme with
      | .key      =>
        match nodeUnless ends true true t.stop fuel s.skip with
        | (k, .error f) => ((((k, .missing) :: found).reverse, false), .error f)
        | (k, .ok s)    =>
          match valueOf ends true fuel s with
          | (v, .error f) => ((((k, v) :: found).reverse, false), .error f)
          | (v, .ok s)    => blockEntries start ((k, v) :: found) fuel s
      | .blockEnd => ((found.reverse, true), .ok s.skip)
      | _         =>
        ((found.reverse, false), .error (unexpected t .expectedKey .blockMapping start))

/-- The value of a key, which may be left out.  In a block, what is left out after a colon
    stands at the colon. -/
def valueOf (ends : List Lexeme) (block : Bool) : Nat → State → Part Node
  | 0, s        => (.missing, .error s.fault)
  | fuel + 1, s =>
    match s.peek with
    | .error f => (.missing, .error f)
    | .ok t    =>
      if t.lexeme = .value then
        if block then nodeUnless ends true true t.stop fuel s.skip
        else
          match s.skip.peek with
          | .error f => (.missing, .error f)
          | .ok next => nodeUnless ends false false next.start fuel s.skip
      else (.nothing t.start, .ok s)

/-- The items of a flow sequence after those already read, last first. -/
def flowItems (start : Mark) (first : Bool) (found : List Node) :
    Nat → State → Part (List Node × Bool)
  | 0, s        => ((found.reverse, false), .error s.fault)
  | fuel + 1, s =>
    match afterComma .flowSequenceEnd .expectedCommaOrBracket .flowSequence start first s with
    | .error f   => ((found.reverse, false), .error f)
    | .ok (t, s) =>
      match t.lexeme with
      | .flowSequenceEnd => ((found.reverse, true), .ok s.skip)
      | .key             =>
        match pair t.start fuel s.skip with
        | (n, .error f) => (((n :: found).reverse, false), .error f)
        | (n, .ok s)    => flowItems start false (n :: found) fuel s
      | _                =>
        match node false false fuel s with
        | (n, .error f) => (((n :: found).reverse, false), .error f)
        | (n, .ok s)    => flowItems start false (n :: found) fuel s

/-- A mapping of one entry that stands in a flow sequence without brackets of its own. -/
def pair (start : Mark) : Nat → State → Part Node
  | 0, s        => (.missing, .error s.fault)
  | fuel + 1, s =>
    let mapping (entries : List (Node × Node)) (whole : Bool) : Node :=
      .mapping ⟨none, none, start⟩ entries whole
    let key : Part Node :=
      match s.peek with
      | .error f => (.missing, .error f)
      | .ok t    =>
        if isNext t [.value, .flowEntry, .flowSequenceEnd] then (.nothing t.stop, .ok s.skip)
        else node false false fuel s
    match key with
    | (k, .error f) => (mapping [(k, .missing)] false, .error f)
    | (k, .ok s)    =>
      match valueOf [.flowEntry, .flowSequenceEnd] false fuel s with
      | (v, .error f) => (mapping [(k, v)] false, .error f)
      | (v, .ok s)    =>
        match s.peek with
        | .error f => (mapping [(k, v)] false, .error f)
        | .ok _    => (mapping [(k, v)] true, .ok s)

/-- The entries of a flow mapping after those already read, last first. -/
def flowEntries (start : Mark) (first : Bool) (found : List (Node × Node)) :
    Nat → State → Part (List (Node × Node) × Bool)
  | 0, s        => ((found.reverse, false), .error s.fault)
  | fuel + 1, s =>
    match afterComma .flowMappingEnd .expectedCommaOrBrace .flowMapping start first s with
    | .error f   => ((found.reverse, false), .error f)
    | .ok (t, s) =>
      match t.lexeme with
      | .flowMappingEnd => ((found.reverse, true), .ok s.skip)
      | .key            =>
        match keyInFlow fuel s.skip with
        | (k, .error f) => ((((k, .missing) :: found).reverse, false), .error f)
        | (k, .ok s)    =>
          match valueOf [.flowEntry, .flowMappingEnd] false fuel s with
          | (v, .error f) => ((((k, v) :: found).reverse, false), .error f)
          | (v, .ok s)    => flowEntries start false ((k, v) :: found) fuel s
      | _               =>
        match node false false fuel s with
        | (k, .error f) => ((((k, .missing) :: found).reverse, false), .error f)
        | (k, .ok s)    =>
          match s.peek with
          | .error f => ((((k, .missing) :: found).reverse, false), .error f)
          | .ok t    => flowEntries start false ((k, .nothing t.start) :: found) fuel s

/-- The key of an entry of a flow mapping, after its indicator. -/
def keyInFlow : Nat → State → Part Node
  | 0, s        => (.missing, .error s.fault)
  | fuel + 1, s =>
    match s.peek with
    | .error f => (.missing, .error f)
    | .ok t    =>
      nodeUnless [.value, .flowEntry, .flowMappingEnd] false false t.start fuel s

/-- The token after the comma that separates the entries of a flow collection. -/
def afterComma (close : Lexeme) (problem : Problem) (context : Context) (start : Mark)
    (first : Bool) (s : State) : Except Fault (Token × State) :=
  match s.peek with
  | .error f => .error f
  | .ok t    =>
    if first ∨ t.lexeme = close then .ok (t, s)
    else if t.lexeme = .flowEntry then (s.skip.peek).map fun t => (t, s.skip)
    else .error (unexpected t problem context start)

end

/-! ## Documents -/

/-- Reads directives up to another token. -/
def readDirectives (version : Bool) (tags : List (String × String)) (fault : Fault) :
    List Token → Except Fault (List (String × String) × List Token)
  | []      => .error fault
  | t :: ts =>
    match t.lexeme with
    | .versionDirective major minor =>
      if version then .error { problem := .duplicateVersion, mark := t.start }
      else if major = 1 ∧ (minor = 1 ∨ minor = 2) then readDirectives true tags fault ts
      else .error { problem := .incompatibleVersion, mark := t.start }
    | .tagDirective handle stem     =>
      if (tags.lookup handle).isSome then .error { problem := .duplicateTag, mark := t.start }
      else readDirectives version (tags ++ [(handle, stem)]) fault ts
    | _                             => .ok (tags, t :: ts)

/-- The tokens that begin a document with an indicator. -/
def beginsExplicitly (t : Token) : Bool :=
  match t.lexeme with
  | .versionDirective _ _ => true
  | .tagDirective _ _     => true
  | .documentStart        => true
  | _                     => false

/-- The fuel that the tokens can use up: each takes at most four calls. -/
def fuel (s : State) : Nat := 4 * s.tokens.length + 4

/-- The content of a document after its indicator. -/
def explicitRoot (s : State) : Part Node :=
  match s.peek with
  | .error f => (.missing, .error f)
  | .ok t    =>
    if beginsExplicitly t || isNext t [.documentEnd, .streamEnd] then (.nothing t.start, .ok s)
    else node true false (fuel s) s

/-- The root of the first document. -/
def root (s : State) : Part Node :=
  match s.peek with
  | .error f => (.missing, .error f)
  | .ok t    =>
    if t.lexeme = .streamEnd then (.nothing t.start, .ok s)
    else if !beginsExplicitly t then node true false (fuel s) { s with tags := defaultTags }
    else
      match readDirectives false [] s.fault s.tokens with
      | .error f           => (.missing, .error f)
      | .ok (tags, tokens) =>
        let s := { s with tokens := tokens, tags := tags ++ defaultTags }
        match s.peek with
        | .error f => (.missing, .error f)
        | .ok t    =>
          if t.lexeme = .documentStart then explicitRoot s.skip
          else (.missing, .error { problem := .expectedDocumentStart, mark := t.start })

/-- The fault of what follows the first document, if it is anything but the end. -/
def afterRoot (s : State) : Option Fault :=
  match s.peek with
  | .error f => some f
  | .ok _    =>
    match s.tokens.dropWhile (·.lexeme = .documentEnd) with
    | t :: _ => if t.lexeme = .streamEnd then none else some many
    | []     => some many
where
  many : Fault := { problem := .manyDocuments, mark := .start }

end Grammar

/-- The document that a text holds. -/
def Document.ofText (text : String) : Document :=
  let tokens := Tokens.ofText text
  let fault := tokens.fault.getD { problem := .endOfStream, mark := .start }
  match Grammar.root ⟨tokens.list, fault, [], []⟩ with
  | (root, .error f) => ⟨root, some f⟩
  | (root, .ok s)    => ⟨root, Grammar.afterRoot s⟩

end Gatehouse.Yaml
