import Gatehouse.Config
import Gatehouse.Failure
import Gatehouse.Identity
import Gatehouse.Key.Line
import Gatehouse.Net.SocketAddress

/-! # Valid configurations

    A configuration of the right shape may still make no sense.  `Config.validate` finds the
    first thing that does not: the listen address, a trusted fingerprint, and last the
    section of the store, of which only what the chosen backend needs is looked at. -/

namespace Gatehouse

/-- What makes no sense in a configuration. -/
inductive InvalidConfig where
  | listen (address : String)
  | fingerprint (text : String)
  | databaseMissing
  | noConnections
  /-- A name that no username can name. -/
  | userName (owner : String)
  | userKey (owner : String) (fault : Key.LineFault)
  deriving DecidableEq, Repr

namespace InvalidConfig

/-- What is said of a missing database section, also when the store is built. -/
def databaseMissingMessage : String := "store.backend is postgres but store.postgres is missing"

def failure : InvalidConfig → Failure
  | .listen address      => ⟨"invalid server.listen address: " ++ address, [Net.notAnAddress]⟩
  | .fingerprint text    =>
    ⟨"trusted fingerprint must look like SHA256:<base64>, got " ++ Text.quoted text, []⟩
  | .databaseMissing     => ⟨databaseMissingMessage, []⟩
  | .noConnections       => ⟨"store.postgres.max_connections must be > 0", []⟩
  | .userName owner      => ⟨"invalid user name in store.users: " ++ Text.quoted owner, []⟩
  | .userKey owner fault => ⟨"invalid public key for user " ++ owner, [fault.message]⟩

end InvalidConfig

/-- The first of the texts that does not look like a fingerprint is refused. -/
def checkFingerprints : List String → Except InvalidConfig Unit
  | []      => .ok ()
  | f :: fs => if Fingerprint.isPlausible f then checkFingerprints fs else .error (.fingerprint f)

/-- Every listed user can be named by a username and has a key. -/
def checkUsers : List (String × String) → Except InvalidConfig Unit
  | []                    => .ok ()
  | (owner, line) :: rest =>
    match Identity.encode owner "x" with
    | .error _ => .error (.userName owner)
    | .ok _    =>
      match AuthorizedKey.parse line with
      | .error fault => .error (.userKey owner fault)
      | .ok _        => checkUsers rest

def StoreSection.validate (s : StoreSection) : Except InvalidConfig Unit :=
  match s.backend with
  | .postgres =>
    match s.database with
    | none    => .error .databaseMissing
    | some db => if db.maxConnections = 0 then .error .noConnections else .ok ()
  | .static   => checkUsers s.users.entries

/-- Refuses a configuration that makes no sense. -/
def Config.validate (c : Config) : Except InvalidConfig Unit :=
  match Net.SocketAddress.parse c.server.listen with
  | none   => .error (.listen c.server.listen)
  | some _ =>
    match checkFingerprints c.routing.trustedFingerprints with
    | .error e => .error e
    | .ok _    => c.store.validate

end Gatehouse
