import Gatehouse.Http.Service
import Gatehouse.Metrics.Sample

/-! # Calls at the same time

    The service works on many requests at once.  A request that it works on is a `Call`, and a
    call goes on in steps:

        key check       verify, observe the duration, count the outcome, answer
        route request   resolve, count the outcome, answer
        scrape          read one sample of the metrics after another, answer

    The metrics are all that calls share.  A step reads or changes one of them at most, and
    between two steps of a call any other call may take its own.  `Traffic.after` follows the
    service through events in any order. -/

namespace Gatehouse.Http

/-! ## Calls -/

/-- A key check whose body was taken, by what was done last. -/
inductive KeyCheck where
  | received (q : KeyRequest)
  | verified (result : Except Undecided Bool)
  | observed (result : Except Undecided Bool)
  | counted (result : Except Undecided Bool)

/-- A route request whose body was taken, by what was done last. -/
inductive Routing where
  | received (q : RouteRequest)
  | resolved (result : Except MalformedIdentity Route)
  | counted (result : Except MalformedIdentity Route)

/-- A request that the service works on. -/
inductive Call where
  | check (phase : KeyCheck)
  | routing (phase : Routing)
  /-- What was read so far, and what is left to be read. -/
  | scrape (shown : Metrics) (left : List Metrics.Sample)
  | answered (a : Answer)

/-- The answer to a key check that ended so. -/
def Answer.ofCheck : Except Undecided Bool → Answer
  | .ok success  => .verdict success
  | .error cause => .refusal (.undecided cause)

/-- The answer to a route request that ended so. -/
def Answer.ofRouting : Except MalformedIdentity Route → Answer
  | .ok found => .route found
  | .error e  => .refusal (.malformedIdentity e)

namespace Routing

/-- How a route request ended. -/
def outcome : Except MalformedIdentity Route → Outcome
  | .ok _    => .resolved
  | .error _ => .malformedIdentity

end Routing

namespace Call

/-- A route request, with its body. -/
def ofRouteBody (body : Body) : Call :=
  match RouteRequest.ofBody body with
  | .error fault => .answered (.refusal (.badRequest fault))
  | .ok q        => .routing (.received q)

/-- A key check, with its body. -/
def ofKeyBody (body : Body) : Call :=
  match KeyRequest.ofBody body with
  | .error fault => .answered (.refusal (.badRequest fault))
  | .ok q        => .check (.received q)

/-- The call of a request that has just arrived. -/
def start (s : Service) (r : Request) : Call :=
  match r.endpoint with
  | .error a     => .answered a
  | .ok .config  => ofRouteBody r.body
  | .ok .pubkey  => ofKeyBody r.body
  | .ok .health  => .answered s.health
  | .ok .metrics => .scrape .zero Metrics.Sample.all

/-- The next step of a call, and the metrics after it; a duration that it observes is of the
    given seconds. -/
def step (s : Service) (m : Metrics) (seconds : Float) : Call → Call × Metrics
  | .check (.received q)           =>
    (.check (.verified (verify s.store q.username q.publicKey)), m)
  | .check (.verified result)      => (.check (.observed result), m.observe seconds)
  | .check (.observed result)      =>
    (.check (.counted result), m.countKey (Service.outcome result))
  | .check (.counted result)       => (.answered (.ofCheck result), m)
  | .routing (.received q)         =>
    (.routing (.resolved (Route.resolve s.fingerprints q.username)), m)
  | .routing (.resolved result)    =>
    (.routing (.counted result), m.countConfig (Routing.outcome result))
  | .routing (.counted result)     => (.answered (.ofRouting result), m)
  | .scrape shown (sample :: left) => (.scrape (sample.copy m shown) left, m)
  | .scrape shown []               => (.answered (.metrics shown), m)
  | .answered a                    => (.answered a, m)

end Call

/-! ## Traffic -/

/-- The service at work. -/
structure Traffic where
  metrics : Metrics
  /-- The calls of all requests so far, in the order of their arrival. -/
  calls   : List Call

/-- What happens next. -/
inductive Event where
  | arrival (r : Request)
  /-- The call at a place takes a step. -/
  | turn (i : Nat) (seconds : Float)

namespace Traffic

/-- The service before the first request. -/
def initial (s : Service) : Traffic := ⟨s.initial, []⟩

def step (s : Service) (t : Traffic) : Event → Traffic
  | .arrival r      => { t with calls := t.calls ++ [Call.start s r] }
  | .turn i seconds =>
    match t.calls[i]? with
    | none      => t
    | some call =>
      let (call, m) := call.step s t.metrics seconds
      ⟨m, t.calls.set i call⟩

/-- The service after some events. -/
def after (s : Service) (t : Traffic) (events : List Event) : Traffic := events.foldl (step s) t

end Traffic

end Gatehouse.Http
