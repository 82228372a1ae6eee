/-! # User stores

    The program asks a user store one question, for the key registered for an owner, and
    one more for its own health.  A store is its answers: where the records come from is
    the business of the modules under `Store`.

    Core Lean 4 only. -/

namespace Gatehouse

/-- A user's registered key. -/
structure UserRecord where
  owner : String
  /-- The canonical blob of the key. -/
  key   : List UInt8
  deriving DecidableEq, Repr

/-- Why a lookup gives no record. -/
inductive LookupError where
  | notFound (owner : String)
  /-- The store could not answer. -/
  | unavailable (reason : String)
  deriving DecidableEq, Repr

/-- The text of a failed query, also used for a failed health probe. -/
def queryFailed (reason : String) : String := "user store query failed: " ++ reason

def LookupError.message : LookupError → String
  | .notFound owner     => "user not found: " ++ owner
  | .unavailable reason => queryFailed reason

/-- A source of user records. -/
structure Store where
  /-- The short name used in health answers. -/
  kind   : String
  lookup : String → Except LookupError UserRecord
  /-- Can the store answer at all?  If not, the reason. -/
  ping   : Except String Unit

end Gatehouse
