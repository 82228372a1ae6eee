import Gatehouse.Http.MediaType
import Gatehouse.Json.Record

/-! # Bodies of webhook requests

    The gateway sends two kinds of record, each as JSON: one that asks where to route a
    connection, and one that asks about a key.  A body is taken if it is announced as JSON,
    is not too long, and holds the record. -/

namespace Gatehouse.Http

/-- A body as it arrives. -/
structure Body where
  contentType : Option String
  content     : List UInt8
  deriving DecidableEq, Repr

/-- Why a body is not taken. -/
inductive BodyFault where
  /-- It is not announced as JSON. -/
  | contentType
  | tooLong
  /-- It is not the record, for the fault in the text. -/
  | json (fault : Json.Fault) (text : List UInt8)

def BodyFault.message : BodyFault → String
  | .contentType     => "Expected request with `Content-Type: application/json`"
  | .tooLong         => "Failed to buffer the request body: length limit exceeded"
  | .json fault text =>
    (if fault.isShape then "Failed to deserialize the JSON body into the target type: "
      else "Failed to parse the request body as JSON: ")
      ++ fault.message text

/-- The greatest length of a body, in bytes. -/
def maxBody : Nat := 2097152

/-- The texts of the fields of a record, in their order. -/
def Body.read (b : Body) (record : Json.Record) : Except BodyFault (List String) :=
  if !announcesJson b.contentType then .error .contentType
  else if maxBody < b.content.length then .error .tooLong
  else
    match record.read b.content with
    | .error fault => .error (.json fault b.content)
    | .ok texts    => .ok texts

/-! ## Route requests -/

/-- Where is a connection to be routed? -/
structure RouteRequest where
  username      : String
  remoteAddress : String
  connectionId  : String
  clientVersion : String
  deriving DecidableEq, Repr

namespace RouteRequest

def record : Json.Record where
  name   := "ConfigRequest"
  fields := [⟨"username", true⟩, ⟨"remoteAddress", false⟩, ⟨"connectionId", false⟩,
    ⟨"clientVersion", false⟩]

/-- The request with the texts of its fields. -/
def ofTexts (texts : List String) : RouteRequest :=
  ⟨texts.getD 0 "", texts.getD 1 "", texts.getD 2 "", texts.getD 3 ""⟩

def ofBody (b : Body) : Except BodyFault RouteRequest := (b.read record).map ofTexts

end RouteRequest

/-! ## Key requests -/

/-- Does a key authenticate a user? -/
structure KeyRequest where
  username      : String
  remoteAddress : String
  connectionId  : String
  /-- The offered key, as an authorized-key line. -/
  publicKey     : String
  deriving DecidableEq, Repr

namespace KeyRequest

def record : Json.Record where
  name   := "PublicKeyAuthRequest"
  fields := [⟨"username", true⟩, ⟨"remoteAddress", false⟩, ⟨"connectionId", false⟩,
    ⟨"publicKey", true⟩]

/-- The request with the texts of its fields. -/
def ofTexts (texts : List String) : KeyRequest :=
  ⟨texts.getD 0 "", texts.getD 1 "", texts.getD 2 "", texts.getD 3 ""⟩

def ofBody (b : Body) : Except BodyFault KeyRequest := (b.read record).map ofTexts

end KeyRequest

end Gatehouse.Http
