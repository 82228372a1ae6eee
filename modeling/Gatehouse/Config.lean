import Gatehouse.Directory
import Gatehouse.Shape

/-! # Configurations

    A configuration has three sections: where the webhooks listen, which backends are
    trusted, and where users are looked up.  Only the last has to be written; everything
    else has a default. -/

namespace Gatehouse

/-- Where the webhooks listen. -/
structure ServerSection where
  listen : String
  deriving DecidableEq, Repr

/-- Which backends are trusted. -/
structure RoutingSection where
  trustedFingerprints : List String
  /-- Paths of public key files, whose fingerprints are trusted too. -/
  hostKeyFiles        : List String
  deriving DecidableEq, Repr

/-- Where users are looked up. -/
inductive Backend where
  /-- In a database. -/
  | postgres
  /-- In the configuration itself. -/
  | static
  deriving DecidableEq, Repr

def Backend.name : Backend → String
  | .postgres => "postgres"
  | .static   => "static"

/-- The backend of a name that stands in a document. -/
def Backend.ofName (name : String) : Except ShapeError Backend :=
  if name = Backend.postgres.name then .ok .postgres
  else if name = Backend.static.name then .ok .static
  else .error (.unknownVariant name "`postgres` or `static`")

/-- How the database is reached. -/
structure DatabaseSection where
  /-- The environment variable that holds the connection URL. -/
  urlVariable    : String
  maxConnections : UInt32
  /-- Seconds to wait for a connection. -/
  acquireTimeout : UInt64
  deriving DecidableEq, Repr

structure StoreSection where
  backend  : Backend
  /-- Asked for only by the `postgres` backend. -/
  database : Option DatabaseSection
  /-- Owners and their authorized-key lines, read only by the `static` backend. -/
  users    : Directory String
  deriving DecidableEq

structure Config where
  server  : ServerSection
  routing : RoutingSection
  store   : StoreSection
  deriving DecidableEq

/-! ## Defaults -/

def ServerSection.defaults : ServerSection := ⟨"0.0.0.0:8080"⟩

def RoutingSection.defaults : RoutingSection := ⟨[], []⟩

def DatabaseSection.defaults : DatabaseSection := ⟨"DATABASE_URL", 10, 5⟩

def StoreSection.defaults : StoreSection := ⟨.postgres, none, Directory.empty⟩

end Gatehouse
