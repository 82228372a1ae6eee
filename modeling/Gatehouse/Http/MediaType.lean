/-! # Media types of requests

    A request says with a media type what its body is:

        application/ld+json; charset=utf-8
        kind        subtype  parameters

    `isJson` reads a media type and tells whether it is JSON: of the kind `application`, with
    a subtype or a suffix `json`.  A text that is no media type is not JSON.

    Core Lean 4 only. -/

namespace Gatehouse.Http

/-- A character of a name. -/
def isTokenChar (c : Char) : Bool := c.isAlphanum || c ∈ "!#$%&'+-.^_`|~".toList

/-- A character between quotes. -/
def isQuotable (c : Char) : Bool := 0x20 ≤ c.toNat && c.toNat ≤ 0x7e

/-! ## Parameters -/

/-- Where among the parameters the next character stands. -/
inductive ParameterPlace where
  /-- After a semicolon and perhaps spaces. -/
  | start
  | name
  | valueStart
  | value
  /-- Right after an opening quote. -/
  | quoteStart
  | quoted
  /-- After a closing quote. -/
  | quoteEnd
  deriving DecidableEq, Repr

/-- The place after a character, if it may stand there. -/
def ParameterPlace.next (p : ParameterPlace) (c : Char) : Option ParameterPlace :=
  match p with
  | .start      =>
    if c = ' ' then some .start
    else if c = '=' then some .valueStart
    else if isTokenChar c then some .name
    else none
  | .name       =>
    if c = '=' then some .valueStart else if isTokenChar c then some .name else none
  | .valueStart =>
    if c = '"' then some .quoteStart else if isTokenChar c then some .value else none
  | .value      =>
    if c = ';' then some .start else if isTokenChar c then some .value else none
  | .quoteStart => if isQuotable c then some .quoted else none
  | .quoted     =>
    if c = '"' then some .quoteEnd else if isQuotable c then some .quoted else none
  | .quoteEnd   =>
    if c = ';' then some .start else if c = ' ' then some .quoteEnd else none

/-- Parameters may end here.  There need not be any behind a semicolon. -/
def ParameterPlace.isFinal : ParameterPlace → Bool
  | .start      => true
  | .valueStart => true
  | .value      => true
  | .quoteEnd   => true
  | _           => false

/-- Are these parameters, the first semicolon left out? -/
def areParameters (s : List Char) : Bool :=
  (s.foldlM ParameterPlace.next .start).any (·.isFinal)

/-! ## Media types -/

structure MediaType where
  kind    : List Char
  /-- The subtype without its suffix. -/
  subtype : List Char
  /-- What follows the last plus sign of the subtype, unless that is its first character. -/
  suffix  : Option (List Char)
  deriving DecidableEq, Repr

namespace MediaType

/-- The subtype and its suffix. -/
def splitSubtype (s : List Char) : List Char × Option (List Char) :=
  let suffix := (s.reverse.takeWhile (· ≠ '+')).reverse
  let size := s.length - suffix.length - 1
  if suffix.length < s.length ∧ 0 < size then (s.take size, some suffix) else (s, none)

/-- Reads a media type. -/
def parse? (text : List Char) : Option MediaType :=
  let kind := text.takeWhile isTokenChar
  match kind.isEmpty, text.dropWhile isTokenChar with
  | false, '/' :: rest =>
    let whole := rest.takeWhile isTokenChar
    let (subtype, suffix) := splitSubtype whole
    match rest.dropWhile isTokenChar with
    | []                => some ⟨kind, subtype, suffix⟩
    | ';' :: parameters =>
      if !whole.isEmpty && areParameters parameters then some ⟨kind, subtype, suffix⟩ else none
    | _                 => none
  | _, _               => none

/-- Are the names equal, but for the case of letters? -/
def sameName (s : List Char) (name : String) : Bool := s.map Char.toLower = name.toList

def isJson (t : MediaType) : Bool :=
  sameName t.kind "application"
    && (sameName t.subtype "json" || t.suffix.any fun s => sameName s "json")

end MediaType

/-- Does the header announce JSON? -/
def announcesJson (header : Option String) : Bool :=
  match header.bind fun h => MediaType.parse? h.toList with
  | none   => false
  | some t => t.isJson

end Gatehouse.Http
