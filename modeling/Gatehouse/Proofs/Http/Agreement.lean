import Gatehouse.Proofs.Http.Accounting
import Gatehouse.Proofs.Metrics.Durations
import Gatehouse.Proofs.Store.Agreement

/-! # Services that look the same

    Two services that hand out the same fingerprints, over stores with the same answers, are
    asked the same requests.  Each exchange then keeps their metrics alike, however long the
    key checks take on either side, and all replies but those on the health of the store are
    the same: a store that fails is never quoted (`reply_looksLike`).  By induction this
    holds along whole runs, which is what `run_hides_reasons` is about. -/

namespace Gatehouse.Http

/-! ## Replies apart from durations -/

/-- The replies are the same, or both are expositions that differ only in the samples named. -/
structure Reply.SameApart (names : List String) (reply other : Reply) : Prop where
  status      : reply.status = other.status
  contentType : reply.contentType = other.contentType
  allow       : reply.allow = other.allow
  body        : reply.body = other.body ∨ ∃ m m' : Metrics, reply.body = m.exposition ∧
    other.body = m'.exposition ∧ m.SameApart names m'

theorem Reply.sameApart_of_eq {reply other : Reply} (names : List String) (h : reply = other) :
    reply.SameApart names other := by
  subst h
  exact ⟨rfl, rfl, rfl, .inl rfl⟩

theorem metrics_reply (m : Metrics) :
    (Answer.metrics m).reply = ⟨200, some Metrics.mediaType, none, m.exposition⟩ := rfl

theorem sameApart_metrics {names : List String} {m m' : Metrics} (h : m.SameApart names m') :
    (Answer.metrics m).reply.SameApart names (Answer.metrics m').reply := by
  rw [metrics_reply, metrics_reply]
  exact ⟨rfl, rfl, rfl, .inr ⟨m, m', rfl, rfl, h⟩⟩

namespace Service

/-- The services hand out the same fingerprints, and lookups in their stores differ at most in
    the reasons for which they fail. -/
structure LooksLike (s other : Service) : Prop where
  fingerprints : s.fingerprints = other.fingerprints
  store        : s.store.SameButReasons other.store

/-! ## One step -/

section answer
variable (s : Service) (m : Metrics) {r : Request} (seconds : Float)

theorem answer_health (h : r.path = "/healthz") :
    s.answer m r seconds = (if r.method = "GET" ∨ r.method = "HEAD" then s.health
      else .methodNotAllowed "GET,HEAD", m) := by
  unfold answer
  rw [Request.endpoint_of_reading (e := .health) h rfl]
  by_cases hread : r.method = "GET" ∨ r.method = "HEAD"
  · simp only [if_pos hread]
  · simp only [if_neg hread]

theorem answer_metrics (h : r.path = "/metrics") :
    s.answer m r seconds = (if r.method = "GET" ∨ r.method = "HEAD" then .metrics m
      else .methodNotAllowed "GET,HEAD", m) := by
  unfold answer
  rw [Request.endpoint_of_reading (e := .metrics) h rfl]
  by_cases hread : r.method = "GET" ∨ r.method = "HEAD"
  · simp only [if_pos hread]
  · simp only [if_neg hread]

/-- Where neither a webhook nor the service's own state is asked for, all services answer the
    same. -/
theorem exists_answer (hconfig : ¬ r.posts "/config") (hpubkey : ¬ r.posts "/pubkey")
    (hhealth : r.path ≠ "/healthz") (hmetrics : r.path ≠ "/metrics") :
    ∃ a, ∀ (s : Service) (m : Metrics) (seconds : Float), s.answer m r seconds = (a, m) := by
  obtain ⟨a, ha⟩ := Request.exists_endpoint_error hconfig hpubkey hhealth hmetrics
  exact ⟨a, fun s m seconds => s.answer_of_endpoint_error m seconds ha⟩

/-- How an answer is sent, given that it is known. -/
theorem reply_of_answer {s : Service} {m m' : Metrics} {a : Answer} {seconds : Float}
    (h : s.answer m r seconds = (a, m')) :
    s.reply m r seconds =
      (if r.method = "HEAD" then { a.reply with body := "" } else a.reply, m') := by
  unfold reply
  rw [h]

end answer

section step
variable {s other : Service} {m m' : Metrics} {r : Request} {seconds seconds' : Float}

/-- Route requests do not reach the store. -/
theorem config_looksLike (h : s.LooksLike other) (hm : m.Alike m') (body : Body) :
    (s.config m body).1 = (other.config m' body).1 ∧
      (s.config m body).2.Alike (other.config m' body).2 := by
  cases hbody : RouteRequest.ofBody body with
  | error fault =>
    rw [config_of_badRequest s m hbody, config_of_badRequest other m' hbody]
    exact ⟨rfl, hm⟩
  | ok q =>
    cases hroute : Route.resolve s.fingerprints q.username with
    | error e =>
      rw [config_of_malformed s m hbody hroute,
        config_of_malformed other m' hbody (h.fingerprints ▸ hroute)]
      exact ⟨rfl, hm.countConfig _⟩
    | ok route =>
      rw [config_of_route s m hbody hroute,
        config_of_route other m' hbody (h.fingerprints ▸ hroute)]
      exact ⟨rfl, hm.countConfig _⟩

/-- The reply to a key check does not tell why the store failed. -/
theorem pubkey_looksLike (h : s.LooksLike other) (hm : m.Alike m') (body : Body) :
    (s.pubkey m body seconds).1.reply = (other.pubkey m' body seconds').1.reply ∧
      (s.pubkey m body seconds).2.Alike (other.pubkey m' body seconds').2 := by
  have hobserved := hm.observe seconds seconds'
  cases hbody : KeyRequest.ofBody body with
  | error fault =>
    rw [pubkey_of_badRequest s m seconds hbody, pubkey_of_badRequest other m' seconds' hbody]
    exact ⟨rfl, hm⟩
  | ok q =>
    rcases verify_of_sameButReasons h.store q.username q.publicKey with
      hsame | ⟨reason, reason', hfail, hfail'⟩
    · cases hverify : verify s.store q.username q.publicKey with
      | error cause =>
        rw [pubkey_of_undecided s m seconds hbody hverify,
          pubkey_of_undecided other m' seconds' hbody (hsame ▸ hverify)]
        exact ⟨rfl, hobserved.countKey _⟩
      | ok success =>
        rw [pubkey_of_verdict s m seconds hbody hverify,
          pubkey_of_verdict other m' seconds' hbody (hsame ▸ hverify)]
        exact ⟨rfl, hobserved.countKey _⟩
    · -- Both are refused for a failure of the store: one message for whatever reason.
      rw [pubkey_of_undecided s m seconds hbody hfail,
        pubkey_of_undecided other m' seconds' hbody hfail']
      exact ⟨rfl, hobserved.countKey _⟩

/-- An exchange keeps the metrics alike, and unless it asks for the metrics or the health of
    the store, its reply is the same. -/
theorem reply_looksLike (h : s.LooksLike other) (hm : m.Alike m') :
    (s.reply m r seconds).2.Alike (other.reply m' r seconds').2 ∧
      (r.path ≠ "/healthz" → r.path ≠ "/metrics" →
        (s.reply m r seconds).1 = (other.reply m' r seconds').1) := by
  by_cases hconfig : r.posts "/config"
  · obtain ⟨hsame, hmetrics⟩ := config_looksLike h hm r.body
    rw [reply_of_posts s m seconds hconfig, reply_of_posts other m' seconds' hconfig,
      answer_config s m seconds hconfig, answer_config other m' seconds' hconfig]
    exact ⟨hmetrics, fun _ _ => congrArg Answer.reply hsame⟩
  · by_cases hpubkey : r.posts "/pubkey"
    · obtain ⟨hsame, hmetrics⟩ := pubkey_looksLike h hm r.body
      rw [reply_of_posts s m seconds hpubkey, reply_of_posts other m' seconds' hpubkey,
        answer_pubkey s m seconds hpubkey, answer_pubkey other m' seconds' hpubkey]
      exact ⟨hmetrics, fun _ _ => hsame⟩
    · constructor
      · rw [metrics_reply_of_not_posts s m seconds hconfig hpubkey,
          metrics_reply_of_not_posts other m' seconds' hconfig hpubkey]
        exact hm
      · intro hhealth hother
        obtain ⟨a, ha⟩ := exists_answer hconfig hpubkey hhealth hother
        rw [reply_of_answer (ha s m seconds), reply_of_answer (ha other m' seconds')]

/-- Asked for their metrics, the services show them. -/
theorem reply_metrics {names : List String} (hpath : r.path = "/metrics")
    (hm : m.SameApart names m') :
    (s.reply m r seconds).1.SameApart names (other.reply m' r seconds').1 := by
  rw [reply_of_answer (answer_metrics s m seconds hpath),
    reply_of_answer (answer_metrics other m' seconds' hpath)]
  by_cases hhead : r.method = "HEAD"
  · -- The head of the reply says nothing of the metrics.
    simp only [hhead, or_true, if_true, metrics_reply]
    exact Reply.sameApart_of_eq _ rfl
  · simp only [hhead, or_false, if_false]
    by_cases hget : r.method = "GET"
    · simp only [if_pos hget]
      exact sameApart_metrics hm
    · simp only [if_neg hget]
      exact Reply.sameApart_of_eq _ rfl

/-- The replies differ in what the expositions of the metrics do. -/
theorem reply_sameApart {names : List String} (h : s.LooksLike other) (hm : m.Alike m')
    (hnames : m.SameApart names m') (hpath : r.path ≠ "/healthz") :
    (s.reply m r seconds).1.SameApart names (other.reply m' r seconds').1 := by
  by_cases hmetrics : r.path = "/metrics"
  · exact reply_metrics hmetrics hnames
  · exact Reply.sameApart_of_eq _ ((reply_looksLike h hm).2 hpath hmetrics)

end step

/-! ## Runs -/

section run
variable {s other : Service}

/-- Along a run the metrics stay alike. -/
theorem run_alike (h : s.LooksLike other) {rs rs' : List (Request × Float)}
    (hrequests : rs.map Prod.fst = rs'.map Prod.fst) {m m' : Metrics} (hm : m.Alike m') :
    (s.run m rs).2.Alike (other.run m' rs').2 := by
  induction rs generalizing rs' m m' with
  | nil =>
    obtain rfl : rs' = [] := List.map_eq_nil_iff.1 hrequests.symm
    exact hm
  | cons e rs ih =>
    cases rs' with
    | nil => cases hrequests
    | cons e' rs' =>
      obtain ⟨r, seconds⟩ := e
      obtain ⟨r', seconds'⟩ := e'
      simp only [List.map_cons, List.cons.injEq] at hrequests
      obtain ⟨rfl, hrequests⟩ := hrequests
      rw [run_cons, run_cons]
      exact ih hrequests (reply_looksLike h hm).1

/-- If every key check takes a time that has a bucket, the buckets hold all of them. -/
theorem complete_run (s : Service) {rs : List (Request × Float)}
    (hfits : ∀ e ∈ rs, Histogram.Fits e.2) :
    (s.run s.initial rs).2.keyDurations.Complete := by
  refine s.run_invariant_of_mem (P := fun m => m.keyDurations.Complete) ?_ Histogram.complete_zero
  intro e he m hm
  by_cases hpubkey : e.1.posts "/pubkey"
  · obtain ⟨shown, -, hmetrics, -⟩ := s.reply_pubkey m e.2 hpubkey
    rw [hmetrics]
    cases shown with
    | none => exact hm
    | some o => exact hm.observe (hfits e he)
  · rw [(keyRequests_reply s m e.2 hpubkey).2]
    exact hm

/-- What the two services reply to one request, in the metrics that the requests before it
    left. -/
theorem exists_replies (h : s.LooksLike other) {rs rs' : List (Request × Float)}
    (hrequests : rs.map Prod.fst = rs'.map Prod.fst) {i : Nat} {r : Request} {seconds : Float}
    (hr : rs[i]? = some (r, seconds)) :
    ∃ (seconds' : Float) (m m' : Metrics),
      (s.run s.initial rs).1[i]? = some (s.reply m r seconds).1 ∧
      (other.run other.initial rs').1[i]? = some (other.reply m' r seconds').1 ∧ m.Alike m' ∧
      ((∀ e ∈ rs ++ rs', Histogram.Fits e.2) →
        m.keyDurations.Complete ∧ m'.keyDurations.Complete) := by
  have hother : ∃ seconds', rs'[i]? = some (r, seconds') := by
    have hmap : (rs'.map Prod.fst)[i]? = some r := by
      rw [← hrequests, List.getElem?_map, hr]
      rfl
    rw [List.getElem?_map, Option.map_eq_some_iff] at hmap
    obtain ⟨⟨_, seconds'⟩, he, rfl⟩ := hmap
    exact ⟨seconds', he⟩
  obtain ⟨seconds', hr'⟩ := hother
  have hbefore : (rs.take i).map Prod.fst = (rs'.take i).map Prod.fst := by
    rw [List.map_take, List.map_take, hrequests]
  have hinitial : s.initial.Alike other.initial := by
    unfold initial
    rw [h.fingerprints]
    exact Metrics.alike_refl _
  refine ⟨seconds', (s.run s.initial (rs.take i)).2, (other.run other.initial (rs'.take i)).2,
    ?_, ?_, run_alike h hbefore hinitial, ?_⟩
  · rw [getElem?_run, hr]
    rfl
  · rw [getElem?_run, hr']
    rfl
  · intro hfits
    constructor
    · refine complete_run s fun e he => ?_
      exact hfits e (List.mem_append_left _ (List.mem_of_mem_take he))
    · refine complete_run other fun e he => ?_
      exact hfits e (List.mem_append_right _ (List.mem_of_mem_take he))

end run

/-- Why a store fails is never told.  Two services hand out the same fingerprints, and their
    stores differ at most in the reasons they give where both fail to answer.  Asked the same
    requests, they give the same replies, except on the health of the store; expositions may
    differ in the durations of key checks, and if each of these has a bucket, not in the
    number of those that do. -/
theorem run_hides_reasons (fingerprints : FingerprintSet) {store store' : Store}
    (hstores : store.SameButReasons store') {rs rs' : List (Request × Float)}
    (hrequests : rs.map Prod.fst = rs'.map Prod.fst) {i : Nat} {r : Request} {seconds : Float}
    (hr : rs[i]? = some (r, seconds)) (hpath : r.path ≠ "/healthz") :
    let s : Service := ⟨fingerprints, store⟩
    let s' : Service := ⟨fingerprints, store'⟩
    ∃ reply reply', (s.run s.initial rs).1[i]? = some reply ∧
      (s'.run s'.initial rs').1[i]? = some reply' ∧
      (r.path ≠ "/metrics" → reply = reply') ∧
      reply.SameApart Metrics.durationNames reply' ∧
      ((∀ e ∈ rs ++ rs', Histogram.Fits e.2) →
        reply.SameApart Metrics.durationNames.dropLast reply') := by
  intro s s'
  have h : s.LooksLike s' := ⟨rfl, hstores⟩
  obtain ⟨seconds', m, m', hreply, hreply', hm, hcomplete⟩ := exists_replies h hrequests hr
  refine ⟨_, _, hreply, hreply', (reply_looksLike h hm).2 hpath, ?_, ?_⟩
  · exact reply_sameApart h hm hm.sameApart hpath
  · intro hfits
    obtain ⟨hall, hall'⟩ := hcomplete hfits
    exact reply_sameApart h hm (hm.sameApart_of_complete hall hall') hpath

/-- A database out of reach, of which only Bob's absence is known. -/
def outOfReach (host : String) : Store :=
  ⟨"postgres", fun owner =>
    if owner = "bob" then .error (.notFound owner)
    else .error (.unavailable ("get user: error communicating with database: " ++ host)),
    .error host⟩

/-- Databases out of reach at two addresses: a key check is replied to alike, and so is a
    request for the metrics. -/
theorem run_hides_reasons_address :
    let s : Service := ⟨.empty, outOfReach "db-1"⟩
    let s' : Service := ⟨.empty, outOfReach "db-2"⟩
    let body := "\x7b\"username\":\"alice#gpu-box-1\",\"publicKey\":\"ssh-ed25519 AAAA\"\x7d"
    let check : Request := ⟨"POST", "/pubkey", ⟨some "application/json", Text.bytes body⟩⟩
    let scrape : Request := ⟨"GET", "/metrics", ⟨none, []⟩⟩
    let rs : List (Request × Float) := [(check, 0.5), (scrape, 0.0)]
    let rs' : List (Request × Float) := [(check, 0.001), (scrape, 0.0)]
    s.store.SameButReasons s'.store ∧ rs.map Prod.fst = rs'.map Prod.fst ∧
      (∃ reply, (s.run s.initial rs).1[0]? = some reply ∧
        (s'.run s'.initial rs').1[0]? = some reply) ∧
      ∃ reply reply', (s.run s.initial rs).1[1]? = some reply ∧
        (s'.run s'.initial rs').1[1]? = some reply' ∧
        reply.SameApart Metrics.durationNames.dropLast reply' := by
  intro s s' body check scrape rs rs'
  have hstores : (outOfReach "db-1").SameButReasons (outOfReach "db-2") := by
    intro owner
    unfold outOfReach
    by_cases howner : owner = "bob"
    · exact .inl (by simp only [if_pos howner])
    · exact .inr ⟨_, _, if_neg howner, if_neg howner⟩
  have hrequests : rs.map Prod.fst = rs'.map Prod.fst := by
    simp only [rs, rs', List.map_cons, List.map_nil]
  have hfits : ∀ e ∈ rs ++ rs', Histogram.Fits e.2 := by
    simp only [rs, rs', List.cons_append, List.nil_append, List.forall_mem_cons]
    exact ⟨by decide +kernel, by decide +kernel, by decide +kernel, by decide +kernel, by simp⟩
  have hcheck : rs[0]? = some (check, 0.5) := rfl
  have hscrape : rs[1]? = some (scrape, 0.0) := rfl
  refine ⟨hstores, hrequests, ?_, ?_⟩
  · obtain ⟨reply, reply', hreply, hreply', hsame, -⟩ :=
      run_hides_reasons .empty hstores hrequests hcheck (by decide)
    obtain rfl : reply = reply' := hsame (by decide)
    exact ⟨reply, hreply, hreply'⟩
  · obtain ⟨reply, reply', hreply, hreply', -, -, hsame⟩ :=
      run_hides_reasons .empty hstores hrequests hscrape (by decide)
    exact ⟨reply, reply', hreply, hreply', hsame hfits⟩

end Service

end Gatehouse.Http
