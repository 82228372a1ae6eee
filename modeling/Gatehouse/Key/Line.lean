import Gatehouse.Fingerprint
import Gatehouse.Key.PublicKey
import Gatehouse.Text.Blank

/-! # Authorized-key lines

    A user registers, and a client offers, a key as one line of text:

        [options] algorithm base64-blob [comment]

    `parse` reduces a line to its algorithm, the canonical blob and the comment.  A line is
    first read without options; only if that fails, and something stands after what could
    be an options field, is the rest read instead.  When both readings fail, the error is
    that of the first.

    `render` writes the line of a key without options. -/

namespace Gatehouse.Key

/-! ## What can be wrong with a line -/

inductive InvalidKey where
  | base64 (fault : Base64.Fault)
  | blob (fault : BlobFault)
  deriving DecidableEq, Repr

def InvalidKey.message : InvalidKey → String
  | .base64 fault => "Base64 decoding error: " ++ fault.message
  | .blob fault   => "SshKey: " ++ fault.message

inductive LineFault where
  /-- Only blanks. -/
  | empty
  /-- A comment, or fewer than two fields. -/
  | missingKey
  /-- The blob is no key. -/
  | invalid (cause : InvalidKey)
  /-- The line names another algorithm than the key has. -/
  | typeMismatch (declared actual : String)
  deriving DecidableEq, Repr

def LineFault.message : LineFault → String
  | .empty                        => "empty key material"
  | .missingKey                   => "no public key found in authorized-key line"
  | .invalid cause                => "invalid public key: " ++ cause.message
  | .typeMismatch declared actual =>
    "key type mismatch: line declares " ++ declared ++ ", key is " ++ actual

end Gatehouse.Key

namespace Gatehouse

/-! ## Authorized keys -/

/-- A key as it is registered or offered. -/
structure AuthorizedKey where
  algorithm : String
  /-- The canonical blob. -/
  blob      : List UInt8
  comment   : Option String
  deriving DecidableEq, Repr

namespace AuthorizedKey

open Key Text

def fingerprint (k : AuthorizedKey) : String := Fingerprint.ofBlob k.blob

/-! ## The options field -/

/-- Where a character of the options field stands. -/
inductive Place where
  | outside
  /-- Between two double quotes. -/
  | quoted
  /-- Between double quotes, right after a backslash. -/
  | escaped
  deriving DecidableEq, Repr

/-- The place of the character after `c`. -/
def Place.next : Place → Char → Place
  | .outside, c => if c = '"' then .quoted else .outside
  | .quoted,  c => if c = '"' then .outside else if c = '\\' then .escaped else .quoted
  | .escaped, _ => .quoted

/-- What follows the first blank outside quotes, without the blanks in front; nothing if
    there is no such blank or only blanks follow it. -/
def afterOptions (place : Place) : List Char → Option (List Char)
  | []     => none
  | c :: r =>
    if place = .outside ∧ isBlank c = true then
      let rest := dropBlanks r
      if rest.isEmpty then none else some rest
    else afterOptions (place.next c) r

/-- What follows the options field of a line. -/
def skipOptions (line : List Char) : Option (List Char) := afterOptions .outside line

/-! ## Reading a line -/

/-- The key that a field of base64 holds. -/
def readField (field : String) : Except InvalidKey PublicKey :=
  match Base64.decode (bytes field) with
  | .error e => .error (.base64 e)
  | .ok blob =>
    match PublicKey.decode blob with
    | .error e => .error (.blob e)
    | .ok key  => .ok key

/-- The words after the key, with one space between them. -/
def commentOf : List (List Char) → Option String
  | []    => none
  | words => some (String.ofList ((words.intersperse [' ']).flatten))

/-- Reads `algorithm base64-blob [comment]`. -/
def parseFields (line : List Char) : Except LineFault AuthorizedKey :=
  match words line with
  | declared :: field :: rest =>
    match readField (String.ofList field) with
    | .error e => .error (.invalid e)
    | .ok key  =>
      if key.algorithm = String.ofList declared then
        .ok { algorithm := key.algorithm, blob := key.encode, comment := commentOf rest }
      else .error (.typeMismatch (String.ofList declared) key.algorithm)
  | _ => .error .missingKey

/-- Reads a line whose outer blanks are gone and that is neither empty nor a comment. -/
def parseTrimmed (line : List Char) : Except LineFault AuthorizedKey :=
  match parseFields line with
  | .ok key      => .ok key
  | .error first =>
    match (skipOptions line).map parseFields with
    | some (.ok key) => .ok key
    | _              => .error first

/-- Reads an authorized-key line. -/
def parse (line : String) : Except LineFault AuthorizedKey :=
  match trim line.toList with
  | []     => .error .empty
  | c :: r => if c = '#' then .error .missingKey else parseTrimmed (c :: r)

/-! ## Writing a line -/

/-- The line of a key, without options. -/
def render (k : AuthorizedKey) : String :=
  k.algorithm ++ " " ++ String.ofList (Base64.encode .padded k.blob)
    ++ (match k.comment with
        | none   => ""
        | some c => " " ++ c)

end AuthorizedKey

end Gatehouse
