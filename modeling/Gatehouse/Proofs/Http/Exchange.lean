import Gatehouse.Http.Service

/-! # One exchange and many

    The path and the method of a request settle which endpoint takes it
    (`Request.endpoint_eq_ok_iff`).  Only two requests reach a webhook: `POST /config` and
    `POST /pubkey`.  Every other one is answered without a look at its body and leaves the
    metrics as they are (`answer_of_not_posts`).

    A run is its exchanges one after another, and each reply is given in the metrics that the
    requests before it left (`getElem?_run`).

    Core Lean 4 only. -/

namespace Gatehouse.Http

/-! ## Requests of webhooks -/

/-- A request of the method `POST` for a path. -/
def Request.posts (r : Request) (path : String) : Prop := r.method = "POST" ∧ r.path = path

instance (r : Request) (path : String) : Decidable (r.posts path) :=
  inferInstanceAs (Decidable (_ ∧ _))

/-! ## Endpoints -/

section endpoint
variable {r : Request} {e : Endpoint}

/-- No two endpoints are at one path. -/
theorem Endpoint.find?_path : Endpoint.all.find? (·.path = e.path) = some e := by
  cases e <;> decide

/-- An endpoint takes the requests for its path that have one of its methods. -/
theorem Request.endpoint_of_path (h : r.path = e.path) :
    r.endpoint = if r.method ∈ e.methods then .ok e
      else .error (.methodNotAllowed (",".intercalate e.methods)) := by
  unfold endpoint
  rw [h, Endpoint.find?_path]

/-- What is only read takes the two methods of readers. -/
theorem Request.endpoint_of_reading (h : r.path = e.path) (hmethods : e.methods = ["GET", "HEAD"]) :
    r.endpoint = if r.method = "GET" ∨ r.method = "HEAD" then .ok e
      else .error (.methodNotAllowed "GET,HEAD") := by
  rw [endpoint_of_path h, hmethods]
  simp only [List.mem_cons, List.not_mem_nil, or_false]
  rfl

theorem Request.endpoint_of_unserved (h : ∀ e : Endpoint, r.path ≠ e.path) :
    r.endpoint = .error .notFound := by
  have hfind : Endpoint.all.find? (·.path = r.path) = none := by
    rw [List.find?_eq_none]
    intro e _ hpath
    exact h e (of_decide_eq_true hpath).symm
  unfold endpoint
  rw [hfind]

theorem Request.endpoint_eq_ok_iff :
    r.endpoint = .ok e ↔ r.path = e.path ∧ r.method ∈ e.methods := by
  constructor
  · intro h
    by_cases hserved : ∃ e' : Endpoint, r.path = e'.path
    · obtain ⟨e', hpath⟩ := hserved
      rw [endpoint_of_path hpath] at h
      split at h
      · rename_i hmethod
        obtain rfl := Except.ok.inj h
        exact ⟨hpath, hmethod⟩
      · cases h
    · rw [endpoint_of_unserved (not_exists.1 hserved)] at h
      cases h
  · rintro ⟨hpath, hmethod⟩
    rw [endpoint_of_path hpath, if_pos hmethod]

/-- Where no endpoint takes a request, the answer says so. -/
theorem Request.endpoint_eq_error {a : Answer} (h : r.endpoint = .error a) :
    a = .notFound ∨ ∃ allowed, a = .methodNotAllowed allowed := by
  unfold endpoint at h
  split at h
  · exact .inl (Except.error.inj h).symm
  · split at h
    · cases h
    · exact .inr ⟨_, (Except.error.inj h).symm⟩

/-- A webhook takes what is posted to its path. -/
theorem Request.endpoint_of_posts (h : r.posts e.path) (hmethods : e.methods = ["POST"]) :
    r.endpoint = .ok e := by
  rw [endpoint_eq_ok_iff, hmethods]
  exact ⟨h.2, List.mem_singleton.2 h.1⟩

/-- What no webhook takes is for the service's own state, or for nothing at all. -/
theorem Request.endpoint_cases (hconfig : ¬ r.posts "/config") (hpubkey : ¬ r.posts "/pubkey") :
    r.endpoint = .ok .health ∨ r.endpoint = .ok .metrics ∨ ∃ a, r.endpoint = .error a := by
  cases h : r.endpoint with
  | error a => exact .inr (.inr ⟨a, rfl⟩)
  | ok e =>
    obtain ⟨hpath, hmethod⟩ := endpoint_eq_ok_iff.1 h
    cases e with
    | config => exact absurd ⟨List.mem_singleton.1 hmethod, hpath⟩ hconfig
    | pubkey => exact absurd ⟨List.mem_singleton.1 hmethod, hpath⟩ hpubkey
    | health => exact .inl rfl
    | metrics => exact .inr (.inl rfl)

theorem Request.exists_endpoint_error (hconfig : ¬ r.posts "/config")
    (hpubkey : ¬ r.posts "/pubkey") (hhealth : r.path ≠ "/healthz")
    (hmetrics : r.path ≠ "/metrics") : ∃ a, r.endpoint = .error a := by
  rcases endpoint_cases hconfig hpubkey with h | h | h
  · exact absurd (endpoint_eq_ok_iff.1 h).1 hhealth
  · exact absurd (endpoint_eq_ok_iff.1 h).1 hmetrics
  · exact h

end endpoint

/-- An answer that no webhook gives. -/
inductive Answer.IsOther (s : Service) (m : Metrics) : Answer → Prop where
  | health : IsOther s m s.health
  | metrics : IsOther s m (.metrics m)
  | notFound : IsOther s m .notFound
  | methodNotAllowed (allowed : String) : IsOther s m (.methodNotAllowed allowed)

namespace Service

section answer
variable (s : Service) (m : Metrics) {r : Request} (seconds : Float)

theorem answer_config (h : r.posts "/config") : s.answer m r seconds = s.config m r.body := by
  unfold answer
  rw [Request.endpoint_of_posts (e := .config) h rfl]

theorem answer_pubkey (h : r.posts "/pubkey") :
    s.answer m r seconds = s.pubkey m r.body seconds := by
  unfold answer
  rw [Request.endpoint_of_posts (e := .pubkey) h rfl]

/-- A request that no endpoint takes is answered without a look at the service. -/
theorem answer_of_endpoint_error {a : Answer} (h : r.endpoint = .error a) :
    s.answer m r seconds = (a, m) := by
  unfold answer
  rw [h]

/-- A request that no webhook takes changes nothing. -/
theorem answer_of_not_posts (hconfig : ¬ r.posts "/config") (hpubkey : ¬ r.posts "/pubkey") :
    ∃ a, s.answer m r seconds = (a, m) ∧ a.IsOther s m := by
  rcases Request.endpoint_cases hconfig hpubkey with hhealth | hmetrics | ⟨a, ha⟩
  · refine ⟨s.health, ?_, .health⟩
    unfold answer
    rw [hhealth]
  · refine ⟨.metrics m, ?_, .metrics⟩
    unfold answer
    rw [hmetrics]
  · refine ⟨a, s.answer_of_endpoint_error m seconds ha, ?_⟩
    rcases Request.endpoint_eq_error ha with rfl | ⟨allowed, rfl⟩
    · exact .notFound
    · exact .methodNotAllowed allowed

/-- What is posted is replied to with a head and a body. -/
theorem reply_of_posts {path : String} (h : r.posts path) :
    s.reply m r seconds = ((s.answer m r seconds).1.reply, (s.answer m r seconds).2) := by
  have hhead : r.method ≠ "HEAD" := by
    rw [h.1]
    decide
  unfold reply
  simp only [if_neg hhead]

/-- The reply to a request that no webhook takes. -/
theorem reply_of_not_posts (hconfig : ¬ r.posts "/config") (hpubkey : ¬ r.posts "/pubkey") :
    ∃ (a : Answer) (reply : Reply), s.reply m r seconds = (reply, m) ∧ a.IsOther s m ∧
      (reply = a.reply ∨ reply = { a.reply with body := "" }) := by
  obtain ⟨a, ha, hother⟩ := s.answer_of_not_posts m seconds hconfig hpubkey
  unfold reply
  rw [ha]
  by_cases hhead : r.method = "HEAD"
  · exact ⟨a, { a.reply with body := "" }, by simp [hhead], hother, .inr rfl⟩
  · exact ⟨a, a.reply, by simp [hhead], hother, .inl rfl⟩

end answer

/-! ## The two webhooks -/

section webhooks
variable (s : Service) (m : Metrics) {body : Body}

theorem config_of_badRequest {fault : BodyFault} (h : RouteRequest.ofBody body = .error fault) :
    s.config m body = (.refusal (.badRequest fault), m) := by
  unfold config
  rw [h]

theorem config_of_malformed {q : RouteRequest} {e : MalformedIdentity}
    (h : RouteRequest.ofBody body = .ok q)
    (hroute : Route.resolve s.fingerprints q.username = .error e) :
    s.config m body = (.refusal (.malformedIdentity e), m.countConfig .malformedIdentity) := by
  unfold config
  rw [h]
  simp only [hroute]

theorem config_of_route {q : RouteRequest} {route : Route}
    (h : RouteRequest.ofBody body = .ok q)
    (hroute : Route.resolve s.fingerprints q.username = .ok route) :
    s.config m body = (.route route, m.countConfig .resolved) := by
  unfold config
  rw [h]
  simp only [hroute]

variable (body) in
/-- A route request is refused or answered with a route. -/
theorem config_cases :
    (∃ refusal, (s.config m body).1 = .refusal refusal) ∨
      ∃ route, (s.config m body).1 = .route route := by
  cases h : RouteRequest.ofBody body with
  | error fault => exact .inl ⟨_, by rw [config_of_badRequest s m h]⟩
  | ok q =>
    cases hroute : Route.resolve s.fingerprints q.username with
    | error e => exact .inl ⟨_, by rw [config_of_malformed s m h hroute]⟩
    | ok route => exact .inr ⟨_, by rw [config_of_route s m h hroute]⟩

variable (seconds : Float)

theorem pubkey_of_badRequest {fault : BodyFault} (h : KeyRequest.ofBody body = .error fault) :
    s.pubkey m body seconds = (.refusal (.badRequest fault), m) := by
  unfold pubkey
  rw [h]

theorem pubkey_of_undecided {q : KeyRequest} {cause : Undecided}
    (h : KeyRequest.ofBody body = .ok q)
    (hverify : verify s.store q.username q.publicKey = .error cause) :
    s.pubkey m body seconds =
      (.refusal (.undecided cause), (m.observe seconds).countKey (outcome (.error cause))) := by
  unfold pubkey
  rw [h]
  simp only [hverify]

theorem pubkey_of_verdict {q : KeyRequest} {success : Bool}
    (h : KeyRequest.ofBody body = .ok q)
    (hverify : verify s.store q.username q.publicKey = .ok success) :
    s.pubkey m body seconds =
      (.verdict success, (m.observe seconds).countKey (outcome (.ok success))) := by
  unfold pubkey
  rw [h]
  simp only [hverify]

end webhooks

/-! ## Runs -/

section run
variable (s : Service) (m : Metrics)

theorem run_cons (r : Request) (seconds : Float) (rest : List (Request × Float)) :
    s.run m ((r, seconds) :: rest) =
      ((s.reply m r seconds).1 :: (s.run (s.reply m r seconds).2 rest).1,
        (s.run (s.reply m r seconds).2 rest).2) := rfl

/-- Each reply is given in the metrics that the requests before it left. -/
theorem getElem?_run (rs : List (Request × Float)) (i : Nat) :
    (s.run m rs).1[i]? =
      rs[i]?.map fun e => (s.reply (s.run m (rs.take i)).2 e.1 e.2).1 :=
  getElem?_inTurn s.exchange m rs i

/-- What no exchange of a run breaks, the run does not. -/
theorem run_invariant_of_mem {P : Metrics → Prop} {rs : List (Request × Float)}
    (hstep : ∀ e ∈ rs, ∀ m, P m → P (s.reply m e.1 e.2).2) {m : Metrics} (h : P m) :
    P (s.run m rs).2 :=
  inTurn_keeps s.exchange hstep h

/-- What every reply leaves alone, a run does. -/
theorem run_invariant {P : Metrics → Prop}
    (hstep : ∀ m r seconds, P m → P (s.reply m r seconds).2) {m : Metrics} (h : P m)
    (rs : List (Request × Float)) : P (s.run m rs).2 :=
  s.run_invariant_of_mem (fun e _ m => hstep m e.1 e.2) h

/-- What grows by one with every exchange of a kind grows by their number. -/
theorem run_counts {f : Metrics → Nat} {p : Request → Reply → Bool}
    (hstep : ∀ m r seconds, f (s.reply m r seconds).2 =
      f m + if p r (s.reply m r seconds).1 then 1 else 0)
    (m : Metrics) (rs : List (Request × Float)) :
    f (s.run m rs).2 = f m + (rs.zip (s.run m rs).1).countP fun e => p e.1.1 e.2 := by
  induction rs generalizing m with
  | nil => rfl
  | cons e rs ih =>
    obtain ⟨r, seconds⟩ := e
    rw [run_cons, ih, hstep, List.zip_cons_cons, List.countP_cons, Nat.add_assoc]
    exact congrArg (f m + ·) (Nat.add_comm _ _)

/-- Each request takes the metrics one step further. -/
theorem metrics_run_take_succ {rs : List (Request × Float)} {i : Nat} {r : Request}
    {seconds : Float} (h : rs[i]? = some (r, seconds)) :
    (s.run m (rs.take (i + 1))).2 = (s.reply (s.run m (rs.take i)).2 r seconds).2 := by
  have hstep : (s.run m (rs.take (i + 1))).2 =
      (s.exchange (s.run m (rs.take i)).2 (r, seconds)).2 := inTurn_take_succ s.exchange m h
  rw [hstep, exchange]

end run

end Service

end Gatehouse.Http
