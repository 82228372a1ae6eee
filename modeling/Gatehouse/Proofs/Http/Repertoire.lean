import Gatehouse.Proofs.Http.Agreement
import Gatehouse.Proofs.Http.Refusals

/-! # All that the service can say

    There are few replies that a request can have, whatever is in the store and whatever was
    asked before.  `InRepertoire` lists them: by the path and the method of the request, by the
    kind of a refusal, by the answer of the store to a probe.  Each path is looked at by itself,
    and `inRepertoire_reply` puts the parts together; since it is about any metrics, it holds of
    every reply of every run (`run_inRepertoire`). -/

namespace Gatehouse.Http

/-! ## The list -/

/-- The paths that are served, each with its methods. -/
def routes : List (String × List String) :=
  [("/config", ["POST"]), ("/pubkey", ["POST"]), ("/healthz", ["GET", "HEAD"]),
    ("/metrics", ["GET", "HEAD"])]

/-- For what a route request can be refused. -/
def configKinds : List String := ["bad_request", "malformed_identity"]

/-- For what a key check can be refused. -/
def pubkeyKinds : List String :=
  ["bad_request", "malformed_identity", "user_not_found", "key_parse_error", "store_error"]

/-- The statuses of replies that are no refusals. -/
def plainStatuses : List Nat := [200, 404, 405, 503]

/-- What a probe of the store comes to. -/
def healthDocument (status : String) (ok : Bool) (detail : String) : Json :=
  .object [("status", .string status), ("checks", .object [("store", .object [
    ("ok", .boolean ok), ("detail", .string detail)])])]

theorem Answer.IsOther.status_mem {s : Service} {m : Metrics} {a : Answer} (h : a.IsOther s m) :
    a.reply.status ∈ plainStatuses := by
  cases h with
  | health =>
    unfold Service.health
    split
    · show 200 ∈ plainStatuses
      decide
    · show 503 ∈ plainStatuses
      decide
  | metrics =>
    show 200 ∈ plainStatuses
    decide
  | notFound =>
    show 404 ∈ plainStatuses
    decide
  | methodNotAllowed allowed =>
    show 405 ∈ plainStatuses
    decide

namespace Service

/-- The request is a key check of an owner for whom the lookup fails like this. -/
def LooksUp (s : Service) (r : Request) (e : LookupError) : Prop :=
  ∃ q identity, KeyRequest.ofBody r.body = .ok q ∧ Identity.decode q.username = .ok identity ∧
    s.store.lookup identity.owner = .error e

/-- The reply is one of those that the request can have. -/
structure InRepertoire (s : Service) (r : Request) (reply : Reply) : Prop where
  /-- A path that is not served is not found. -/
  unknownPath : r.path ∉ routes.map Prod.fst → reply.status = 404 ∧ reply.body = ""
  /-- A path that is served is served for its methods, which the reply names. -/
  wrongMethod : ∀ methods, (r.path, methods) ∈ routes → r.method ∉ methods →
    reply.status = 405 ∧ reply.body = "" ∧ reply.allow = some (",".intercalate methods)
  /-- A route request is answered well or refused for its body or its username. -/
  config : r.posts "/config" →
    reply.status = 200 ∨ ∃ kind ∈ configKinds, ∃ message, reply.IsRefusal kind message
  /-- A key check has a verdict or is refused for the cause for which it has none. -/
  pubkey : r.posts "/pubkey" →
    reply.status = 200 ∨ ∃ kind ∈ pubkeyKinds, ∃ message, reply.IsRefusal kind message
  /-- Only an owner without a record is reported as one. -/
  userNotFound : r.posts "/pubkey" → ((∃ message, reply.IsRefusal "user_not_found" message) ↔
    ∃ owner, s.LooksUp r (.notFound owner))
  /-- Only a store that cannot answer is reported as one. -/
  storeError : r.posts "/pubkey" → ((∃ message, reply.IsRefusal "store_error" message) ↔
    ∃ reason, s.LooksUp r (.unavailable reason))
  /-- No other statuses and no other kinds occur. -/
  closed : reply.status ∈ plainStatuses ∨
    ∃ kind ∈ pubkeyKinds, ∃ message, reply.IsRefusal kind message
  /-- A reply of status 500 is an object of two strings, and never for a failure of the service
      itself. -/
  refusal : reply.status = 500 → ∃ kind message, kind ≠ "internal" ∧ reply.IsRefusal kind message
  /-- The service is healthy exactly if its store answers, whatever kind of store it is and
      whatever it says when it fails. -/
  health : r.path = "/healthz" → r.method = "GET" →
    (s.store.ping = .ok () ∧ reply.status = 200 ∧ ∃ detail,
      Json.parse? (Text.bytes reply.body) = some (healthDocument "ok" true detail)) ∨
    ∃ reason, s.store.ping = .error reason ∧ reply.status = 503 ∧ ∃ detail,
      Json.parse? (Text.bytes reply.body) = some (healthDocument "unhealthy" false detail)
  /-- The metrics can always be read. -/
  metrics : r.path = "/metrics" → r.method = "GET" → reply.status = 200
  /-- Who asks for the head of a reply gets no body, and is not refused. -/
  head : r.method = "HEAD" → reply.body = "" ∧ reply.status ∈ plainStatuses

/-! ## Paths and methods -/

section reply
variable (s : Service) (m : Metrics) {r : Request} (seconds : Float)

/-- An answer without a body is sent the same way whatever the method. -/
theorem reply_of_bodiless {m' : Metrics} {a : Answer} (h : s.answer m r seconds = (a, m'))
    (hbody : a.reply.body = "") : (s.reply m r seconds).1 = a.reply := by
  have hcut : { a.reply with body := "" } = a.reply := by rw [← hbody]
  rw [reply_of_answer h, hcut, ite_self]

theorem reply_of_unknownPath (h : r.path ∉ routes.map Prod.fst) :
    (s.reply m r seconds).1 = Answer.notFound.reply := by
  have hserved : ∀ e : Endpoint, e.path ∈ routes.map Prod.fst := by
    intro e
    cases e <;> decide
  have hunserved : ∀ e : Endpoint, r.path ≠ e.path := by
    intro e hpath
    rw [hpath] at h
    exact h (hserved e)
  have hanswer := s.answer_of_endpoint_error m seconds (Request.endpoint_of_unserved hunserved)
  exact s.reply_of_bodiless m seconds hanswer rfl

theorem answer_of_wrongMethod {methods : List String} (h : (r.path, methods) ∈ routes)
    (hmethod : r.method ∉ methods) :
    s.answer m r seconds = (.methodNotAllowed (",".intercalate methods), m) := by
  have hroutes : routes = Endpoint.all.map fun e => (e.path, e.methods) := rfl
  rw [hroutes, List.mem_map] at h
  obtain ⟨e, -, hroute⟩ := h
  obtain ⟨hpath, rfl⟩ := Prod.mk.inj hroute
  have hendpoint := Request.endpoint_of_path hpath.symm
  rw [if_neg hmethod] at hendpoint
  exact s.answer_of_endpoint_error m seconds hendpoint

theorem reply_of_wrongMethod {methods : List String} (h : (r.path, methods) ∈ routes)
    (hmethod : r.method ∉ methods) :
    (s.reply m r seconds).1 = (Answer.methodNotAllowed (",".intercalate methods)).reply :=
  s.reply_of_bodiless m seconds (s.answer_of_wrongMethod m seconds h hmethod) rfl

/-! ## The webhooks -/

theorem reply_config_cases (h : r.posts "/config") :
    (s.reply m r seconds).1.status = 200 ∨
      ∃ kind ∈ configKinds, ∃ message, (s.reply m r seconds).1.IsRefusal kind message := by
  cases hbody : RouteRequest.ofBody r.body with
  | error fault =>
    right
    rw [reply_of_body_error h hbody]
    exact ⟨"bad_request", by decide, fault.message, isRefusal_refusal (.badRequest fault)⟩
  | ok q =>
    rw [s.reply_eq_routeReply m seconds h hbody]
    cases hdecode : Identity.decode q.username with
    | error e =>
      right
      rw [routeReply_of_error hdecode]
      exact ⟨"malformed_identity", by decide, e.message, isRefusal_refusal (.malformedIdentity e)⟩
    | ok identity =>
      left
      rw [routeReply_of_ok hdecode]
      rfl

/-- Every cause for which there is no verdict is one of four. -/
theorem kind_mem_pubkeyKinds (cause : Undecided) : cause.kind ∈ pubkeyKinds := by
  cases cause <;> simp [Undecided.kind, pubkeyKinds]

theorem reply_pubkey_cases (h : r.posts "/pubkey") :
    (s.reply m r seconds).1.status = 200 ∨
      ∃ kind ∈ pubkeyKinds, ∃ message, (s.reply m r seconds).1.IsRefusal kind message := by
  cases hbody : KeyRequest.ofBody r.body with
  | error fault =>
    right
    rw [s.reply_of_key_body_error m seconds h hbody]
    exact ⟨"bad_request", by decide, fault.message, isRefusal_refusal (.badRequest fault)⟩
  | ok q =>
    rw [s.reply_eq_keyReply m seconds h hbody]
    cases hverify : verify s.store q.username q.publicKey with
    | error cause =>
      right
      rw [keyReply_of_error hverify]
      exact ⟨cause.kind, kind_mem_pubkeyKinds cause, _, isRefusal_refusal (.undecided cause)⟩
    | ok success =>
      left
      rw [keyReply_of_ok hverify]
      rfl

/-- A key check whose body is taken is refused for the cause for which there is no verdict. -/
theorem isRefusal_pubkey_iff (h : r.posts "/pubkey") {kind message : String}
    (hkind : kind ≠ "bad_request") :
    (s.reply m r seconds).1.IsRefusal kind message ↔ ∃ q cause,
      KeyRequest.ofBody r.body = .ok q ∧ verify s.store q.username q.publicKey = .error cause ∧
        cause.kind = kind ∧ (Refusal.undecided cause).message = message := by
  constructor
  · intro hrefusal
    cases hbody : KeyRequest.ofBody r.body with
    | error fault =>
      rw [s.reply_of_key_body_error m seconds h hbody] at hrefusal
      exact absurd (isRefusal_refusal_iff.1 hrefusal).1.symm hkind
    | ok q =>
      rw [s.reply_eq_keyReply m seconds h hbody] at hrefusal
      obtain ⟨cause, hverify, hsays⟩ := isRefusal_keyReply_iff.1 hrefusal
      exact ⟨q, cause, rfl, hverify, hsays⟩
  · rintro ⟨q, cause, hbody, hverify, hsays⟩
    rw [s.reply_eq_keyReply m seconds h hbody]
    exact isRefusal_keyReply_iff.2 ⟨cause, hverify, hsays⟩

/-- A failed lookup is told by its kind. -/
theorem isRefusal_of_looksUp (h : r.posts "/pubkey") {e : LookupError} (hlooks : s.LooksUp r e) :
    ∃ message, (s.reply m r seconds).1.IsRefusal (Undecided.ofLookup e).kind message := by
  obtain ⟨q, identity, hbody, hdecode, hlookup⟩ := hlooks
  have hverify : verify s.store q.username q.publicKey = _ :=
    verify_of_lookup_error q.publicKey hdecode hlookup
  rw [s.reply_eq_keyReply m seconds h hbody, keyReply_of_error hverify]
  exact ⟨_, isRefusal_refusal (.undecided (.ofLookup e))⟩

theorem isRefusal_userNotFound_iff (h : r.posts "/pubkey") :
    (∃ message, (s.reply m r seconds).1.IsRefusal "user_not_found" message) ↔
      ∃ owner, s.LooksUp r (.notFound owner) := by
  constructor
  · rintro ⟨message, hrefusal⟩
    obtain ⟨q, cause, hbody, hverify, hkind, -⟩ :=
      (s.isRefusal_pubkey_iff m seconds h (by decide)).1 hrefusal
    obtain ⟨owner, rfl⟩ := Undecided.kind_eq_userNotFound_iff.1 hkind
    obtain ⟨identity, hdecode, hlookup⟩ := (verify_eq_ofLookup_iff (.notFound owner)).1 hverify
    exact ⟨owner, q, identity, hbody, hdecode, hlookup⟩
  · rintro ⟨owner, hlooks⟩
    exact s.isRefusal_of_looksUp m seconds h hlooks

theorem isRefusal_storeError_iff (h : r.posts "/pubkey") :
    (∃ message, (s.reply m r seconds).1.IsRefusal "store_error" message) ↔
      ∃ reason, s.LooksUp r (.unavailable reason) := by
  constructor
  · rintro ⟨message, hrefusal⟩
    obtain ⟨q, cause, hbody, hverify, hkind, -⟩ :=
      (s.isRefusal_pubkey_iff m seconds h (by decide)).1 hrefusal
    obtain ⟨identity, reason, hdecode, hlookup, rfl⟩ := exists_reason_of_kind hverify hkind
    exact ⟨reason, q, identity, hbody, hdecode, hlookup⟩
  · rintro ⟨reason, hlooks⟩
    exact s.isRefusal_of_looksUp m seconds h hlooks

/-! ## The state of the service -/

theorem parse?_healthJson (ok : Bool) (detail : String) :
    Json.parse? (Text.bytes (healthJson ok detail).render) = some (healthJson ok detail) := by
  have hexact : Json.IsExact (healthJson ok detail) :=
    ⟨trivial, ⟨⟨trivial, trivial, trivial⟩, trivial⟩, trivial⟩
  exact Json.parse?_render hexact

theorem reply_health_cases (hpath : r.path = "/healthz") (hmethod : r.method = "GET") :
    (s.store.ping = .ok () ∧ (s.reply m r seconds).1.status = 200 ∧ ∃ detail,
      Json.parse? (Text.bytes (s.reply m r seconds).1.body) =
        some (healthDocument "ok" true detail)) ∨
    ∃ reason, s.store.ping = .error reason ∧ (s.reply m r seconds).1.status = 503 ∧ ∃ detail,
      Json.parse? (Text.bytes (s.reply m r seconds).1.body) =
        some (healthDocument "unhealthy" false detail) := by
  have hanswer := answer_health s m seconds hpath
  rw [if_pos (.inl hmethod)] at hanswer
  rw [reply_of_answer hanswer, if_neg (by rw [hmethod]; decide)]
  unfold health
  cases hping : s.store.ping with
  | ok _ => exact .inl ⟨rfl, rfl, _, parse?_healthJson true _⟩
  | error reason => exact .inr ⟨reason, rfl, rfl, _, parse?_healthJson false _⟩

theorem status_reply_metrics (hpath : r.path = "/metrics") (hmethod : r.method = "GET") :
    (s.reply m r seconds).1.status = 200 := by
  have hanswer := answer_metrics s m seconds hpath
  rw [if_pos (.inl hmethod)] at hanswer
  rw [reply_of_answer hanswer, if_neg (by rw [hmethod]; decide)]
  rfl

/-! ## The status of a reply -/

theorem status_reply_of_not_posts (hconfig : ¬ r.posts "/config") (hpubkey : ¬ r.posts "/pubkey") :
    (s.reply m r seconds).1.status ∈ plainStatuses := by
  obtain ⟨a, reply, hreply, hother, hsent⟩ := s.reply_of_not_posts m seconds hconfig hpubkey
  have hstatus := hother.status_mem
  rw [hreply]
  -- Its head has the status of the whole reply.
  rcases hsent with rfl | rfl
  · exact hstatus
  · exact hstatus

theorem reply_cases : (s.reply m r seconds).1.status ∈ plainStatuses ∨
    ∃ kind ∈ pubkeyKinds, ∃ message, (s.reply m r seconds).1.IsRefusal kind message := by
  have hgood : 200 ∈ plainStatuses := by decide
  by_cases hconfig : r.posts "/config"
  · rcases s.reply_config_cases m seconds hconfig with hwell | ⟨kind, hkind, message, hrefusal⟩
    · exact .inl (hwell ▸ hgood)
    · -- What a route request is refused for, a key check can be refused for too.
      have hsub : ∀ kind ∈ configKinds, kind ∈ pubkeyKinds := by decide
      exact .inr ⟨kind, hsub kind hkind, message, hrefusal⟩
  · by_cases hpubkey : r.posts "/pubkey"
    · rcases s.reply_pubkey_cases m seconds hpubkey with hwell | hrefused
      · exact .inl (hwell ▸ hgood)
      · exact .inr hrefused
    · exact .inl (s.status_reply_of_not_posts m seconds hconfig hpubkey)

theorem isRefusal_of_status (h : (s.reply m r seconds).1.status = 500) :
    ∃ kind message, kind ≠ "internal" ∧ (s.reply m r seconds).1.IsRefusal kind message := by
  rcases s.reply_cases m seconds with hplain | ⟨kind, hkind, message, hrefusal⟩
  · rw [h] at hplain
    exact absurd hplain (by decide)
  · refine ⟨kind, message, ?_, hrefusal⟩
    rintro rfl
    exact absurd hkind (by decide)

theorem reply_of_head (h : r.method = "HEAD") :
    (s.reply m r seconds).1.body = "" ∧ (s.reply m r seconds).1.status ∈ plainStatuses := by
  have hposts (path : String) : ¬ r.posts path := by
    rintro ⟨hpost, -⟩
    rw [h] at hpost
    exact absurd hpost (by decide)
  refine ⟨?_, s.status_reply_of_not_posts m seconds (hposts _) (hposts _)⟩
  obtain ⟨a, ha, -⟩ := s.answer_of_not_posts m seconds (hposts _) (hposts _)
  rw [reply_of_answer ha, if_pos h]

/-! ## Every reply -/

/-- Whatever was asked before, a reply is one of those that the request can have. -/
theorem inRepertoire_reply : s.InRepertoire r (s.reply m r seconds).1 where
  unknownPath h := by
    rw [s.reply_of_unknownPath m seconds h]
    exact ⟨rfl, rfl⟩
  wrongMethod methods h hmethod := by
    rw [s.reply_of_wrongMethod m seconds h hmethod]
    exact ⟨rfl, rfl, rfl⟩
  config := s.reply_config_cases m seconds
  pubkey := s.reply_pubkey_cases m seconds
  userNotFound := s.isRefusal_userNotFound_iff m seconds
  storeError := s.isRefusal_storeError_iff m seconds
  closed := s.reply_cases m seconds
  refusal := s.isRefusal_of_status m seconds
  health := s.reply_health_cases m seconds
  metrics := s.status_reply_metrics m seconds
  head := s.reply_of_head m seconds

end reply

/-- Every request of a run has a reply, and it is one of those that the request can have. -/
theorem run_inRepertoire (s : Service) (rs : List (Request × Float)) {i : Nat} {r : Request}
    {seconds : Float} (hr : rs[i]? = some (r, seconds)) :
    ∃ reply, (s.run s.initial rs).1[i]? = some reply ∧ s.InRepertoire r reply := by
  have hreply := s.getElem?_run s.initial rs i
  rw [hr] at hreply
  exact ⟨_, hreply, s.inRepertoire_reply _ seconds⟩

/-- A database that cannot be reached: the probe says so, and a key check of somebody who may well
    have a record is refused for the store, not for the user. -/
theorem run_inRepertoire_down :
    let s : Service := ⟨.empty,
      ⟨"postgres", fun _ => .error (.unavailable "no route to host"), .error "no route to host"⟩⟩
    let probe : Request := ⟨"GET", "/healthz", ⟨none, []⟩⟩
    let check : Request := ⟨"POST", "/pubkey", ⟨some "application/json", Text.bytes
      "[\"alice#gpu-box-1\",\"\",\"\",\"no key\"]"⟩⟩
    let rs := [(probe, 0.0), (check, 0.5)]
    rs[0]? = some (probe, 0.0) ∧ rs[1]? = some (check, 0.5) ∧ ∃ reply reply',
      (s.run s.initial rs).1[0]? = some reply ∧ (s.run s.initial rs).1[1]? = some reply' ∧
      reply.status = 503 ∧ (∃ message, reply'.IsRefusal "store_error" message) ∧
      ¬ ∃ message, reply'.IsRefusal "user_not_found" message := by
  intro s probe check rs
  have hfirst : rs[0]? = some (probe, 0.0) := rfl
  have hsecond : rs[1]? = some (check, 0.5) := rfl
  have hbody : KeyRequest.ofBody check.body = .ok ⟨"alice#gpu-box-1", "", "", "no key"⟩ :=
    ok_of_toOption (by decide +kernel)
  have hdecode : Identity.decode "alice#gpu-box-1" = .ok ⟨"alice", "gpu-box-1"⟩ :=
    ok_of_toOption (by decide +kernel)
  have hposts : check.posts "/pubkey" := by decide
  obtain ⟨reply, hreply, hprobe⟩ := run_inRepertoire s rs hfirst
  obtain ⟨reply', hreply', hcheck⟩ := run_inRepertoire s rs hsecond
  refine ⟨hfirst, hsecond, reply, reply', hreply, hreply', ?_, ?_, ?_⟩
  · rcases hprobe.health (by decide) rfl with ⟨hping, -⟩ | ⟨reason, -, hstatus, -⟩
    · cases hping
    · exact hstatus
  · exact (hcheck.storeError hposts).2 ⟨"no route to host", _, _, hbody, hdecode, rfl⟩
  · intro hunknown
    obtain ⟨owner, q, identity, -, -, hlookup⟩ := (hcheck.userNotFound hposts).1 hunknown
    cases hlookup

end Service

end Gatehouse.Http
