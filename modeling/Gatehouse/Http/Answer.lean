import Gatehouse.Failure
import Gatehouse.Http.Webhook
import Gatehouse.Json.Writer
import Gatehouse.Metrics.Exposition
import Gatehouse.Route
import Gatehouse.Verdict

/-! # Answers

    An `Answer` is what the service has to say; a `Reply` is how it is sent: a status, two
    headers and a text.  `Answer.reply` leads from one to the other.

    The gateway takes every reply but one of status 200 as a refusal.  All refusals of the
    webhooks share one status; what went wrong is told by the two members of their body. -/

namespace Gatehouse.Http

/-! ## Refusals -/

/-- Why a webhook has no other answer. -/
inductive Refusal where
  /-- The body was not taken. -/
  | badRequest (fault : BodyFault)
  | malformedIdentity (error : MalformedIdentity)
  /-- No verdict on the key was reached. -/
  | undecided (cause : Undecided)
  /-- The service itself failed. -/
  | internal (failure : Failure)

namespace Refusal

/-- The stable name of the cause. -/
def kind : Refusal → String
  | .badRequest _        => "bad_request"
  | .malformedIdentity _ => "malformed_identity"
  | .undecided cause     => cause.kind
  | .internal _          => "internal"

/-- What the gateway is told.  What happened in the user store stays inside. -/
def message : Refusal → String
  | .badRequest fault      => fault.message
  | .malformedIdentity e   => e.message
  | .undecided (.store _)  => "internal error"
  | .undecided cause       => cause.message
  | .internal failure      => "Internal server error: " ++ failure.message

end Refusal

/-! ## Answers -/

inductive Answer where
  | route (route : Route)
  /-- Does the offered key authenticate the owner? -/
  | verdict (success : Bool)
  | refusal (refusal : Refusal)
  /-- Can the store answer, and what there is to say about it. -/
  | health (ok : Bool) (detail : String)
  | metrics (metrics : Metrics)
  | notFound
  | methodNotAllowed (allowed : String)

/-- How an answer is sent. -/
structure Reply where
  status      : Nat
  contentType : Option String
  /-- The methods that would have been allowed. -/
  allow       : Option String
  body        : String
  deriving DecidableEq, Repr

/-- The route as the gateway reads it. -/
def Route.toJson (r : Route) : Json :=
  .object [("config", .object [
    ("backend", .string r.backend),
    (r.backend, .object [
      ("server", .string r.host),
      ("port", .integer r.port),
      ("username", .string r.username),
      ("allowedHostKeyFingerprints", .array (r.fingerprints.toList.map .string))])])]

def Refusal.toJson (r : Refusal) : Json :=
  .object [("error", .string r.kind), ("message", .string r.message)]

def healthJson (ok : Bool) (detail : String) : Json :=
  .object [
    ("status", .string (if ok then "ok" else "unhealthy")),
    ("checks", .object [
      ("store", .object [("ok", .boolean ok), ("detail", .string detail)])])]

/-- A reply whose body is JSON. -/
def Reply.json (status : Nat) (body : Json) : Reply :=
  ⟨status, some "application/json", none, body.render⟩

namespace Answer

def reply : Answer → Reply
  | .route r                  => .json 200 (Route.toJson r)
  | .verdict success          => .json 200 (.object [("success", .boolean success)])
  | .refusal r                => .json 500 r.toJson
  | .health ok detail         => .json (if ok then 200 else 503) (healthJson ok detail)
  | .metrics m                => ⟨200, some Metrics.mediaType, none, m.exposition⟩
  | .notFound                 => ⟨404, none, none, ""⟩
  | .methodNotAllowed allowed => ⟨405, none, some allowed, ""⟩

end Answer

end Gatehouse.Http
