import Gatehouse.Directory
import Gatehouse.InTurn
import Gatehouse.Key.Line
import Gatehouse.Store

/-! # The store of listed users

    For development and tests the users are listed in the configuration, each with an
    authorized-key line.  The store holds the canonical blob of each line. -/

namespace Gatehouse

/-- Owners and the canonical blobs of their keys. -/
abbrev MemoryStore := Directory (List UInt8)

/-- An owner whose line holds no key. -/
structure InvalidUserKey where
  owner : String
  fault : Key.LineFault
  deriving DecidableEq, Repr

namespace MemoryStore

/-- Adds the listed users one after another; the first bad line ends the loading. -/
def load (store : MemoryStore) : List (String × String) → Except InvalidUserKey MemoryStore
  | []                    => .ok store
  | (owner, line) :: rest =>
    match AuthorizedKey.parse line with
    | .error fault => .error ⟨owner, fault⟩
    | .ok key      => load (store.insert owner key.blob) rest

/-- The store of the users listed with their authorized-key lines. -/
def ofUsers (users : Directory String) : Except InvalidUserKey MemoryStore :=
  load Directory.empty users.entries

/-- The record of an owner. -/
def lookup (store : MemoryStore) (owner : String) : Except LookupError UserRecord :=
  match store.get? owner with
  | none     => .error (.notFound owner)
  | some key => .ok ⟨owner, key⟩

/-- The listed users as a store; it can always answer. -/
def toStore (store : MemoryStore) : Store where
  kind   := "static"
  lookup := store.lookup
  ping   := .ok ()

/-! ## Calls -/

/-- What a store of listed users is called for. -/
inductive Call where
  /-- Registers a key for an owner, in place of the one it had. -/
  | insert (owner : String) (key : List UInt8)
  | lookup (owner : String)
  | ping
  deriving DecidableEq, Repr

/-- What a call is answered. -/
inductive Answer where
  | inserted
  | found (result : Except LookupError UserRecord)
  | pinged (result : Except String Unit)

/-- The answer to a call, and the store after it. -/
def call (store : MemoryStore) : Call → Answer × MemoryStore
  | .insert owner key => (.inserted, store.insert owner key)
  | .lookup owner     => (.found (store.toStore.lookup owner), store)
  | .ping             => (.pinged store.toStore.ping, store)

/-- The answers to calls, one after another, and the store after them. -/
def run (store : MemoryStore) (calls : List Call) : List Answer × MemoryStore :=
  inTurn call store calls

end MemoryStore

end Gatehouse
