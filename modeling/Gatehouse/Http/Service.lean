import Gatehouse.Http.Answer
import Gatehouse.InTurn

/-! # The webhook service

    Four paths are served:

        POST /config     where to route a connection
        POST /pubkey     does an offered key authenticate its owner
        GET  /healthz    can the store answer
        GET  /metrics    the metrics

    What is behind a path is its `Endpoint`.  A `Service` is what does not change while it runs; the metrics are the only state.
    `Service.answer` says what a request is answered and what becomes of the metrics;
    `Service.run` answers one request after another. -/

namespace Gatehouse.Http

/-! ## Requests -/

structure Request where
  method : String
  /-- The path, with the query if there is one. -/
  target : String
  body   : Body
  deriving DecidableEq, Repr

/-- The path of a request, without the query. -/
def Request.path (r : Request) : String := String.ofList (r.target.toList.takeWhile (· ≠ '?'))

/-- What is served. -/
inductive Endpoint where
  | config
  | pubkey
  | health
  | metrics
  deriving DecidableEq, Repr

namespace Endpoint

def all : List Endpoint := [.config, .pubkey, .health, .metrics]

def path : Endpoint → String
  | .config  => "/config"
  | .pubkey  => "/pubkey"
  | .health  => "/healthz"
  | .metrics => "/metrics"

/-- The methods that are taken, in the order in which they are told. -/
def methods : Endpoint → List String
  | .config  => ["POST"]
  | .pubkey  => ["POST"]
  | .health  => ["GET", "HEAD"]
  | .metrics => ["GET", "HEAD"]

end Endpoint

/-- The endpoint that takes a request; if there is none, the answer says so. -/
def Request.endpoint (r : Request) : Except Answer Endpoint :=
  match Endpoint.all.find? (·.path = r.path) with
  | none   => .error .notFound
  | some e =>
    if r.method ∈ e.methods then .ok e
    else .error (.methodNotAllowed (",".intercalate e.methods))

structure Service where
  /-- Host keys that the gateway may accept from backends. -/
  fingerprints : FingerprintSet
  store        : Store

namespace Service

/-- The metrics when the service starts. -/
def initial (s : Service) : Metrics := Metrics.zero.setFingerprints s.fingerprints.size

/-! ## The four paths -/

/-- Answers a route request. -/
def config (s : Service) (m : Metrics) (body : Body) : Answer × Metrics :=
  match RouteRequest.ofBody body with
  | .error fault => (.refusal (.badRequest fault), m)
  | .ok r        =>
    match Route.resolve s.fingerprints r.username with
    | .error e   => (.refusal (.malformedIdentity e), m.countConfig .malformedIdentity)
    | .ok route  => (.route route, m.countConfig .resolved)

/-- How a key check ended. -/
def outcome : Except Undecided Bool → Outcome
  | .ok true                    => .accepted
  | .ok false                   => .rejected
  | .error (.malformedIdentity _) => .malformedIdentity
  | .error (.userNotFound _)    => .userNotFound
  | .error (.keyParse _)        => .keyParseError
  | .error (.store _)           => .storeError

/-- Answers a key check that took the given seconds. -/
def pubkey (s : Service) (m : Metrics) (body : Body) (seconds : Float) : Answer × Metrics :=
  match KeyRequest.ofBody body with
  | .error fault => (.refusal (.badRequest fault), m)
  | .ok r        =>
    let result := verify s.store r.username r.publicKey
    let m := (m.observe seconds).countKey (outcome result)
    match result with
    | .error cause => (.refusal (.undecided cause), m)
    | .ok success  => (.verdict success, m)

/-- Asks the store whether it can answer. -/
def health (s : Service) : Answer :=
  match s.store.ping with
  | .ok _         => .health true s.store.kind
  | .error reason => .health false (s.store.kind ++ " ping failed: " ++ reason)

/-! ## Answers -/

/-- The answer to a request, and the metrics after it; a key check takes the given
    seconds. -/
def answer (s : Service) (m : Metrics) (r : Request) (seconds : Float) : Answer × Metrics :=
  match r.endpoint with
  | .error a     => (a, m)
  | .ok .config  => s.config m r.body
  | .ok .pubkey  => s.pubkey m r.body seconds
  | .ok .health  => (s.health, m)
  | .ok .metrics => (.metrics m, m)

/-- The reply to a request: only its head is sent for the method `HEAD`. -/
def reply (s : Service) (m : Metrics) (r : Request) (seconds : Float) : Reply × Metrics :=
  let (a, m) := s.answer m r seconds
  (if r.method = "HEAD" then { a.reply with body := "" } else a.reply, m)

/-- The reply to a request with the seconds that its key check takes. -/
def exchange (s : Service) (m : Metrics) (r : Request × Float) : Reply × Metrics :=
  s.reply m r.1 r.2

/-- The replies to requests, one after another, and the metrics after them. -/
def run (s : Service) (m : Metrics) (rs : List (Request × Float)) : List Reply × Metrics :=
  inTurn s.exchange m rs

end Service

end Gatehouse.Http
