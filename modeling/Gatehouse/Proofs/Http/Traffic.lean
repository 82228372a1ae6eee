import Gatehouse.Http.Traffic
import Gatehouse.Proofs.Http.Agreement
import Gatehouse.Proofs.Metrics.Readings

/-! # Calls left alone

    A call that no other call comes between takes its steps to the end and is then answered as
    `Service.answer` says, with the metrics that are left behind there (`after_alone`).  The
    service that answers one request after another is the one at work of which calls never
    overlap. -/

namespace Gatehouse.Http

open Metrics (Sample)

namespace Call

/-! ## How calls start -/

section start
variable (s : Service) {r : Request}

theorem start_config (h : r.posts "/config") : start s r = ofRouteBody r.body := by
  unfold start
  rw [Request.endpoint_of_posts (e := .config) h rfl]

theorem start_pubkey (h : r.posts "/pubkey") : start s r = ofKeyBody r.body := by
  unfold start
  rw [Request.endpoint_of_posts (e := .pubkey) h rfl]

theorem health_ne_metrics (m : Metrics) : s.health ≠ .metrics m := by
  unfold Service.health
  split
  · exact Answer.noConfusion
  · exact Answer.noConfusion

theorem start_metrics (h : r.path = "/metrics") (hread : r.method = "GET" ∨ r.method = "HEAD") :
    start s r = .scrape .zero Sample.all := by
  unfold start
  rw [Request.endpoint_of_reading (e := .metrics) h rfl, if_pos hread]

/-- A request that no webhook takes is a scrape, or it is answered at once. -/
theorem start_of_not_posts (hconfig : ¬ r.posts "/config") (hpubkey : ¬ r.posts "/pubkey") :
    (start s r = .scrape .zero Sample.all ∧
      ∀ m seconds, s.answer m r seconds = (.metrics m, m)) ∨
    ∃ a, (∀ m, a ≠ .metrics m) ∧ start s r = .answered a ∧
      ∀ m seconds, s.answer m r seconds = (a, m) := by
  unfold start Service.answer
  rcases Request.endpoint_cases hconfig hpubkey with hhealth | hmetrics | ⟨a, ha⟩
  · rw [hhealth]
    exact .inr ⟨s.health, health_ne_metrics s, rfl, fun _ _ => rfl⟩
  · rw [hmetrics]
    exact .inl ⟨rfl, fun _ _ => rfl⟩
  · rw [ha]
    refine .inr ⟨a, ?_, rfl, fun _ _ => rfl⟩
    intro m
    rcases Request.endpoint_eq_error ha with rfl | ⟨allowed, rfl⟩
    · exact Answer.noConfusion
    · exact Answer.noConfusion

/-- What a call can be at first. -/
inductive Fresh : Call → Prop where
  | check (q : KeyRequest) : Fresh (.check (.received q))
  | routing (q : RouteRequest) : Fresh (.routing (.received q))
  | scrape : Fresh (.scrape .zero Sample.all)
  | answered {a : Answer} : (∀ m, a ≠ .metrics m) → Fresh (.answered a)

theorem fresh_start (r : Request) : (start s r).Fresh := by
  by_cases hconfig : r.posts "/config"
  · rw [start_config s hconfig]
    unfold ofRouteBody
    cases RouteRequest.ofBody r.body with
    | error fault => exact .answered fun _ => Answer.noConfusion
    | ok q => exact .routing q
  · by_cases hpubkey : r.posts "/pubkey"
    · rw [start_pubkey s hpubkey]
      unfold ofKeyBody
      cases KeyRequest.ofBody r.body with
      | error fault => exact .answered fun _ => Answer.noConfusion
      | ok q => exact .check q
    · rcases start_of_not_posts s hconfig hpubkey with ⟨hstart, -⟩ | ⟨a, ha, hstart, -⟩
      · rw [hstart]
        exact .scrape
      · rw [hstart]
        exact .answered ha

end start

/-! ## Steps that nothing comes between -/

section proceed
variable (s : Service) (seconds : Float)

/-- Some steps of a call, one right after another. -/
def proceed : Nat → Call × Metrics → Call × Metrics
  | 0, p              => p
  | n + 1, (call, m) => proceed n (call.step s m seconds)

/-- A scrape in one go shows the metrics of that moment. -/
theorem proceed_scrape (m shown : Metrics) (left : List Sample) :
    proceed s seconds (left.length + 1) (.scrape shown left, m) =
      (.answered (.metrics (left.foldl (fun shown sample => sample.copy m shown) shown)), m) := by
  induction left generalizing shown with
  | nil => rfl
  | cons sample left ih =>
    show proceed s seconds (left.length + 1) (.scrape (sample.copy m shown) left, m) = _
    rw [ih, List.foldl_cons]

theorem exists_proceed_config (m : Metrics) (body : Body) :
    ∃ n, proceed s seconds n (ofRouteBody body, m) =
      (.answered (s.config m body).1, (s.config m body).2) := by
  unfold ofRouteBody
  cases hbody : RouteRequest.ofBody body with
  | error fault =>
    rw [Service.config_of_badRequest s m hbody]
    exact ⟨0, rfl⟩
  | ok q =>
    refine ⟨3, ?_⟩
    cases hroute : Route.resolve s.fingerprints q.username with
    | error e =>
      rw [Service.config_of_malformed s m hbody hroute]
      simp only [proceed, step, hroute, Routing.outcome, Answer.ofRouting]
    | ok route =>
      rw [Service.config_of_route s m hbody hroute]
      simp only [proceed, step, hroute, Routing.outcome, Answer.ofRouting]

theorem exists_proceed_pubkey (m : Metrics) (body : Body) :
    ∃ n, proceed s seconds n (ofKeyBody body, m) =
      (.answered (s.pubkey m body seconds).1, (s.pubkey m body seconds).2) := by
  unfold ofKeyBody
  cases hbody : KeyRequest.ofBody body with
  | error fault =>
    rw [Service.pubkey_of_badRequest s m seconds hbody]
    exact ⟨0, rfl⟩
  | ok q =>
    refine ⟨4, ?_⟩
    cases hverify : verify s.store q.username q.publicKey with
    | error cause =>
      rw [Service.pubkey_of_undecided s m seconds hbody hverify]
      simp only [proceed, step, hverify, Answer.ofCheck]
    | ok success =>
      rw [Service.pubkey_of_verdict s m seconds hbody hverify]
      simp only [proceed, step, hverify, Answer.ofCheck]

/-- Every call comes to its end, and to the right one. -/
theorem exists_proceed (m : Metrics) (r : Request) :
    ∃ n, proceed s seconds n (start s r, m) =
      (.answered (s.answer m r seconds).1, (s.answer m r seconds).2) := by
  by_cases hconfig : r.posts "/config"
  · rw [start_config s hconfig, Service.answer_config s m seconds hconfig]
    exact exists_proceed_config s seconds m r.body
  · by_cases hpubkey : r.posts "/pubkey"
    · rw [start_pubkey s hpubkey, Service.answer_pubkey s m seconds hpubkey]
      exact exists_proceed_pubkey s seconds m r.body
    · rcases start_of_not_posts s hconfig hpubkey with ⟨hstart, hanswer⟩ | ⟨a, -, hstart, hanswer⟩
      · refine ⟨Sample.all.length + 1, ?_⟩
        rw [hstart, hanswer, proceed_scrape, Metrics.foldl_copy]
      · rw [hstart, hanswer]
        exact ⟨0, rfl⟩

end proceed

end Call

namespace Traffic

section alone
variable (s : Service) {t : Traffic} {i : Nat} {call : Call}

theorem after_append (t : Traffic) (events later : List Event) :
    t.after s (events ++ later) = (t.after s events).after s later := List.foldl_append

theorem step_turn (h : t.calls[i]? = some call) (seconds : Float) :
    t.step s (.turn i seconds) =
      ⟨(call.step s t.metrics seconds).2, t.calls.set i (call.step s t.metrics seconds).1⟩ := by
  simp only [step, h]

theorem after_turns (h : t.calls[i]? = some call) (seconds : Float) (n : Nat) :
    t.after s (.replicate n (.turn i seconds)) =
      ⟨(Call.proceed s seconds n (call, t.metrics)).2,
        t.calls.set i (Call.proceed s seconds n (call, t.metrics)).1⟩ := by
  obtain ⟨hi, hcall⟩ := List.getElem?_eq_some_iff.1 h
  induction n generalizing t call with
  | zero =>
    show t = ⟨t.metrics, t.calls.set i call⟩
    rw [← hcall, List.set_getElem_self]
  | succ n ih =>
    rw [List.replicate_succ]
    show (t.step s (.turn i seconds)).after s _ = _
    have hi' : i < (t.calls.set i (call.step s t.metrics seconds).1).length := by
      rwa [List.length_set]
    rw [step_turn s h, ih (List.getElem?_set_self hi) hi' (List.getElem_set_self hi')]
    simp only [List.set_set]
    rfl

/-- A request that arrives, and the steps of its call one right after another. -/
theorem after_arrival {r : Request} {seconds : Float} {n : Nat} {m : Metrics}
    (h : Call.proceed s seconds n (Call.start s r, t.metrics) = (call, m)) :
    t.after s (.arrival r :: .replicate n (.turn t.calls.length seconds)) =
      ⟨m, t.calls ++ [call]⟩ := by
  have hcall : (t.calls ++ [Call.start s r])[t.calls.length]? = some (Call.start s r) := by simp
  show Traffic.after s ⟨t.metrics, t.calls ++ [Call.start s r]⟩ _ = _
  rw [after_turns s hcall, h]
  simp

end alone

/-- A request whose call is left alone is answered as by a service that has nothing else to
    do, and the calls that were there are left as they were. -/
theorem after_alone (s : Service) (t : Traffic) (r : Request) (seconds : Float) :
    ∃ n, t.after s (.arrival r :: .replicate n (.turn t.calls.length seconds)) =
      ⟨(s.answer t.metrics r seconds).2,
        t.calls ++ [.answered (s.answer t.metrics r seconds).1]⟩ := by
  obtain ⟨n, hn⟩ := Call.exists_proceed s seconds t.metrics r
  exact ⟨n, after_arrival s hn⟩

/-- A scrape that is left alone takes a turn for each sample and one more, and shows the
    metrics as they are. -/
theorem after_scrape (s : Service) (t : Traffic) {r : Request} (seconds : Float)
    (hpath : r.path = "/metrics") (hread : r.method = "GET" ∨ r.method = "HEAD") :
    t.after s (.arrival r :: .replicate 17 (.turn t.calls.length seconds)) =
      ⟨t.metrics, t.calls ++ [.answered (.metrics t.metrics)]⟩ := by
  apply after_arrival
  have hscrape := Call.proceed_scrape s seconds t.metrics .zero Sample.all
  rw [Metrics.foldl_copy] at hscrape
  rw [Call.start_metrics s hpath hread]
  exact hscrape

end Traffic

end Gatehouse.Http
