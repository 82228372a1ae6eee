import Gatehouse.Store

/-! # The store of a database

    In production the users are rows of a table.  What the program sees of a database is
    its answer to two queries: the first row for a login name, and an empty query that only
    shows whether the database answers. -/

namespace Gatehouse

/-! ## Why a query fails -/

inductive DatabaseError where
  /-- No connection of the pool became free in time. -/
  | poolTimedOut
  | poolClosed
  | rowNotFound
  | columnNotFound (name : String)
  /-- An answer that is no answer. -/
  | protocol (detail : String)
  /-- A value that the column should not hold. -/
  | decoding (column : Nat) (detail : String)
  /-- The connection broke, or never was. -/
  | communication (detail : String)
  /-- The database's own complaint. -/
  | server (detail : String)
  /-- A connection URL that says nothing. -/
  | configuration (detail : String)
  deriving DecidableEq, Repr

def DatabaseError.message : DatabaseError → String
  | .poolTimedOut          => "pool timed out while waiting for an open connection"
  | .poolClosed            => "attempted to acquire a connection on a closed pool"
  | .rowNotFound           =>
    "no rows returned by a query that expected to return at least one row"
  | .columnNotFound name   => "no column found for name: " ++ name
  | .protocol detail       => "encountered unexpected or invalid data: " ++ detail
  | .decoding column detail =>
    "error occurred while decoding column " ++ toString column ++ ": " ++ detail
  | .communication detail  => "error communicating with database: " ++ detail
  | .server detail         => "error returned from database: " ++ detail
  | .configuration detail  => "error with configuration: " ++ detail

/-- The causes below the error, outermost first. -/
def DatabaseError.causes : DatabaseError → List String
  | .communication detail => [detail]
  | .configuration detail => [detail]
  | .decoding _ detail    => [detail]
  | .server detail        => [detail]
  | _                     => []

/-- A lookup that failed while the program was doing what `context` says. -/
def LookupError.ofDatabase (context : String) (e : DatabaseError) : LookupError :=
  .unavailable (context ++ ": " ++ e.message)

/-! ## The table of users -/

/-- A row of the table of users; the key may be missing. -/
structure UserRow where
  loginName : String
  publicKey : Option (List UInt8)
  deriving DecidableEq, Repr

/-- A database as its answers show it. -/
inductive Database where
  /-- It answers from these rows. -/
  | rows (table : List UserRow)
  /-- Every query fails. -/
  | failing (error : DatabaseError)
  deriving DecidableEq, Repr

namespace Database

/-- The complaint about a missing key. -/
def unexpectedNull : DatabaseError :=
  .decoding 1 "unexpected null; try decoding as an `Option`"

/-- The first row with the login name, its key decoded. -/
def firstRow (db : Database) (owner : String) : Except DatabaseError (Option UserRecord) :=
  match db with
  | .failing e   => .error e
  | .rows table  =>
    match table.find? (·.loginName = owner) with
    | none                   => .ok none
    | some ⟨_, none⟩         => .error unexpectedNull
    | some ⟨name, some key⟩  => .ok (some ⟨name, key⟩)

def lookup (db : Database) (owner : String) : Except LookupError UserRecord :=
  match db.firstRow owner with
  | .error e         => .error (.ofDatabase "get user" e)
  | .ok none         => .error (.notFound owner)
  | .ok (some found) => .ok found

def ping (db : Database) : Except String Unit :=
  match db with
  | .rows _    => .ok ()
  | .failing e => .error (queryFailed ("ping: " ++ e.message))

/-- The table of users as a store. -/
def toStore (db : Database) : Store where
  kind   := "postgres"
  lookup := db.lookup
  ping   := db.ping

end Database

end Gatehouse
