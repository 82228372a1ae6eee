import Gatehouse.Config
import Gatehouse.Json.Value
import Gatehouse.Shape

/-! # Configurations as JSON values

    A section is an object whose absent fields take their defaults and whose other members
    are ignored, or an array of its fields in their order.

    Of several mistakes the first one met is told: the members of an object are visited in
    the order of their names, the elements of an array in their own order. -/

namespace Gatehouse

/-- The kind of a value, for a message. -/
def Json.found : Json → Found
  | .null      => .null
  | .boolean b => .boolean b
  | .integer n => .integer n
  | .float x   => .float x
  | .string s  => .string s
  | .array _   => .sequence
  | .object _  => .map

namespace Config.OfJson

/-- A value read as something, or what is wrong with its shape. -/
abbrev Read (α : Type) := Json → Except ShapeError α

def mistaken {α : Type} (expected : String) (j : Json) : Except ShapeError α :=
  .error (.invalidType j.found expected)

/-! ## Plain values -/

def text : Read String
  | .string s => .ok s
  | j         => mistaken "a string" j

def texts : Read (List String)
  | .array es => es.mapM text
  | j         => mistaken "a sequence" j

/-- A directory of texts; the entries are visited in the order of their names. -/
def directory : Read (Directory String)
  | .object ms =>
    (Json.directory ms).entries.foldlM
      (fun d (name, j) => (text j).map (d.insert name)) Directory.empty
  | j          => mistaken "a map" j

/-- An integer from zero to `bound`. -/
def natural (expected : String) (bound : Nat) : Read Nat
  | .integer n =>
    if 0 ≤ n ∧ n.toNat ≤ bound then .ok n.toNat else .error (.invalidValue (.integer n) expected)
  | j          => mistaken expected j

def word32 : Read UInt32 := fun j => (natural "u32" (UInt32.size - 1) j).map UInt32.ofNat

def word64 : Read UInt64 := fun j => (natural "u64" (UInt64.size - 1) j).map UInt64.ofNat

/-- A backend: its name, or an object with its name alone. -/
def backend : Read Backend
  | .string name => Backend.ofName name
  | .object ms   =>
    match (Json.directory ms).entries with
    | [(name, content)] => do
      let b ← Backend.ofName name
      match content with
      | .null => .ok b
      | j     => mistaken "unit" j
    | _                 => .error (.invalidValue .map "map with a single key")
  | j            => mistaken "string or map" j

/-! ## Sections -/

/-- The fields that are given of a section. -/
inductive Given where
  | members (ms : List (String × Json))
  | elements (es : List Json)

/-- A kind of section: its name and the number of its fields. -/
structure Kind where
  name   : String
  fields : Nat

def Kind.expected (k : Kind) : String := "struct " ++ k.name

/-- What a value gives of a section. -/
def Kind.given (k : Kind) : Read Given
  | .object ms => .ok (.members ms)
  | .array es  => .ok (.elements es)
  | j          => mistaken k.expected j

/-- The value of a field, which has its place in an array and its name in an object. -/
def Given.get? (place : Nat) (name : String) : Given → Option Json
  | .members ms  => Json.lastMember name ms
  | .elements es => es[place]?

/-- The complaint about an array that ends before a field that it has to hold. -/
def Kind.tooShort (k : Kind) (place : Nat) : ShapeError :=
  .invalidLength place
    (k.expected ++ " with " ++ toString k.fields ++ (if k.fields = 1 then " element" else " elements"))

/-- A field that takes its default when it is absent. -/
def Given.field {α : Type} (g : Given) (place : Nat) (name : String) (default : α)
    (read : Read α) : Except ShapeError α :=
  match g.get? place name with
  | none   => .ok default
  | some j => read j

/-- An array holds no more elements than there are fields. -/
def Kind.exhausted (k : Kind) : Given → Except ShapeError Unit
  | .members _   => .ok ()
  | .elements es =>
    if k.fields < es.length then .error (.invalidLength es.length "fewer elements in array")
    else .ok ()

def serverKind : Kind := ⟨"ServerConfig", 1⟩

def server : Read ServerSection := fun j => do
  let g ← serverKind.given j
  let listen ← g.field 0 "listen" ServerSection.defaults.listen text
  serverKind.exhausted g
  return ⟨listen⟩

def routingKind : Kind := ⟨"RoutingConfig", 2⟩

def routing : Read RoutingSection := fun j => do
  let g ← routingKind.given j
  let trusted := g.field 0 "trusted_fingerprints" [] texts
  let files   := g.field 1 "host_key_files" [] texts
  match g with
  | .members _  => do
    let files ← files
    return ⟨← trusted, files⟩
  | .elements _ => do
    let whole ← RoutingSection.mk <$> trusted <*> files
    routingKind.exhausted g
    return whole

def databaseKind : Kind := ⟨"PostgresConfig", 3⟩

def database : Read DatabaseSection := fun j => do
  let g ← databaseKind.given j
  let defaults := DatabaseSection.defaults
  let url      := g.field 0 "url_env" defaults.urlVariable text
  let max      := g.field 1 "max_connections" defaults.maxConnections word32
  let timeout  := g.field 2 "acquire_timeout" defaults.acquireTimeout word64
  match g with
  | .members _  => do
    let timeout ← timeout
    let max ← max
    return ⟨← url, max, timeout⟩
  | .elements _ => do
    let whole ← DatabaseSection.mk <$> url <*> max <*> timeout
    databaseKind.exhausted g
    return whole

/-- A section that `null` leaves out. -/
def optionally {α : Type} (read : Read α) : Read (Option α)
  | .null => .ok none
  | j     => (read j).map some

def storeKind : Kind := ⟨"StoreConfig", 3⟩

/-- The section of the store.  An object may leave the database out, an array may not. -/
def store : Read StoreSection := fun j => do
  let g ← storeKind.given j
  let backend ← g.field 0 "backend" StoreSection.defaults.backend backend
  let database ←
    match g.get? 1 "postgres", g with
    | some j, _          => optionally database j
    | none, .members _   => .ok none
    | none, .elements _  => .error (storeKind.tooShort 1)
  let users ← g.field 2 "users" Directory.empty directory
  storeKind.exhausted g
  return ⟨backend, database, users⟩

def configKind : Kind := ⟨"Config", 3⟩

/-- A whole configuration, which has to have a section of the store. -/
def config : Read Config := fun j => do
  let g ← configKind.given j
  let server  := g.field 0 "server" ServerSection.defaults server
  let routing := g.field 1 "routing" RoutingSection.defaults routing
  let store   :=
    match g.get? 2 "store", g with
    | some j, _         => store j
    | none, .members _  => .error (.missingField "store")
    | none, .elements _ => .error (configKind.tooShort 2)
  match g with
  | .members _  => do
    let routing ← routing
    let server ← server
    return ⟨server, routing, ← store⟩
  | .elements _ => do
    let whole ← Config.mk <$> server <*> routing <*> store
    configKind.exhausted g
    return whole

end Config.OfJson

/-- The configuration that a JSON value describes. -/
def Config.ofJson (j : Json) : Except ShapeError Config := Config.OfJson.config j

/-- The section of the store that a JSON value describes. -/
def StoreSection.ofJson (j : Json) : Except ShapeError StoreSection := Config.OfJson.store j

end Gatehouse
