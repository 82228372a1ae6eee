import Gatehouse.Config.Validity
import Gatehouse.Net.DatabaseUrl
import Gatehouse.Store.Database
import Gatehouse.Store.Memory

/-! # Building the configured store

    The section of the store says which store the program uses.  A database is reached
    through the URL that an environment variable holds; listed users are taken from the
    section itself. -/

namespace Gatehouse

/-- The values of the environment variables that are set. -/
abbrev Environment := String → Option String

/-- What a database that is being connected to answers. -/
abbrev Connect := DatabaseHost → Except DatabaseError Database

/-- Why no store could be built. -/
inductive StoreFailure where
  | databaseMissing
  /-- The environment variable of the URL is not set. -/
  | urlMissing (variableName : String)
  | unreachable (error : DatabaseError)
  | invalidKey (error : InvalidUserKey)
  deriving DecidableEq, Repr

def StoreFailure.failure : StoreFailure → Failure
  | .databaseMissing       => ⟨InvalidConfig.databaseMissingMessage, []⟩
  | .urlMissing name       =>
    ⟨"database URL env var " ++ name ++ " not set", ["environment variable not found"]⟩
  | .unreachable error     => ⟨"failed to connect to Postgres", error.message :: error.causes⟩
  | .invalidKey ⟨owner, f⟩ => ⟨"invalid public key for user " ++ owner, [f.message]⟩

/-- Connects to the database of a section.  A pool that has no connections, or no time to wait
    for one, never has a free one. -/
def DatabaseSection.connect (d : DatabaseSection) (environment : Environment) (connect : Connect) :
    Except StoreFailure Database :=
  match environment d.urlVariable with
  | none     => .error (.urlMissing d.urlVariable)
  | some url =>
    match DatabaseUrl.parse url with
    | .error e => .error (.unreachable e)
    | .ok host =>
      if d.maxConnections = 0 ∨ d.acquireTimeout = 0 then .error (.unreachable .poolTimedOut)
      else
        match connect host with
        | .error e => .error (.unreachable e)
        | .ok db   => .ok db

/-- A store, and whether it is known to hold no user. -/
structure BuiltStore where
  store    : Store
  hasUsers : Bool

/-- The store that the section describes. -/
def StoreSection.build (s : StoreSection) (environment : Environment) (connect : Connect) :
    Except StoreFailure BuiltStore :=
  match s.backend with
  | .postgres =>
    match s.database with
    | none   => .error .databaseMissing
    | some d =>
      match d.connect environment connect with
      | .error e => .error e
      | .ok db   => .ok ⟨db.toStore, true⟩
  | .static   =>
    match MemoryStore.ofUsers s.users with
    | .error e    => .error (.invalidKey e)
    | .ok memory  => .ok ⟨memory.toStore, !memory.isEmpty⟩

end Gatehouse
