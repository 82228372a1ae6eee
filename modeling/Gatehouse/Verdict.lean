import Gatehouse.Identity
import Gatehouse.Key.Line
import Gatehouse.Store

/-! # Verdicts on offered keys

    An offered key is accepted exactly when its canonical blob is the one registered for
    the owner that the username names.

    Whatever prevents a verdict is an `Undecided`; a wrong key is a verdict.  The checks come
    in a fixed order: the username, the owner's record, the offered line. -/

namespace Gatehouse

/-- Why no verdict could be reached. -/
inductive Undecided where
  | malformedIdentity (error : MalformedIdentity)
  | userNotFound (owner : String)
  | keyParse (fault : Key.LineFault)
  | store (reason : String)
  deriving DecidableEq, Repr

namespace Undecided

/-- The stable name of the cause, used in answers. -/
def kind : Undecided → String
  | .malformedIdentity _ => "malformed_identity"
  | .userNotFound _      => "user_not_found"
  | .keyParse _          => "key_parse_error"
  | .store _             => "store_error"

def message : Undecided → String
  | .malformedIdentity e => e.message
  | .userNotFound owner  => (LookupError.notFound owner).message
  | .keyParse fault      => "failed to parse public key: " ++ fault.message
  | .store reason        => (LookupError.unavailable reason).message

/-- The cause when the owner's record could not be had. -/
def ofLookup : LookupError → Undecided
  | .notFound owner     => .userNotFound owner
  | .unavailable reason => .store reason

end Undecided

/-- Are the offered and the registered blob the same bytes?  Every byte is looked at whatever
    the bytes before it; only different lengths end the comparison at once. -/
def keysMatch (offered registered : List UInt8) : Bool :=
  offered.length == registered.length
    && ((offered.zip registered).foldl (fun acc p => acc ||| (p.1 ^^^ p.2)) 0) == 0

/-- Does the offered line authenticate the owner that the username names? -/
def verify (store : Store) (username line : String) : Except Undecided Bool :=
  match Identity.decode username with
  | .error e        => .error (.malformedIdentity e)
  | .ok identity    =>
    match store.lookup identity.owner with
    | .error e      => .error (.ofLookup e)
    | .ok record    =>
      match AuthorizedKey.parse line with
      | .error fault => .error (.keyParse fault)
      | .ok offered  => .ok (keysMatch offered.blob record.key)

end Gatehouse
