import Gatehouse.Proofs.Http.Reply
import Gatehouse.Proofs.Metrics.Lines
import Gatehouse.Proofs.Metrics.Samples

/-! # The metrics account for the replies

    The service counts an outcome before it answers; the gateway sees the answer only.  That
    the two agree is a matter of one step: after each request the tallies have grown by what
    its reply shows (`count_config_reply`, `count_key_reply`), and by induction the tallies
    after a run are the numbers of replies that show each outcome. -/

namespace Gatehouse

namespace Outcome

/-- How a route request can end. -/
def ofConfig : List Outcome := [.resolved, .malformedIdentity]

/-- How a key check can end. -/
def ofPubkey : List Outcome :=
  [.accepted, .rejected, .malformedIdentity, .userNotFound, .keyParseError, .storeError]

end Outcome

namespace Http

/-! ## What a reply shows -/

/-- Does the reply of a webhook show that the request ended so? -/
def Reply.shows (reply : Reply) : Outcome → Bool
  | .resolved          => decide (reply.status = 200)
  | .accepted          => decide (reply.TellsVerdict true)
  | .rejected          => decide (reply.TellsVerdict false)
  | .malformedIdentity => decide (reply.error? = some "malformed_identity")
  | .userNotFound      => decide (reply.error? = some "user_not_found")
  | .keyParseError     => decide (reply.error? = some "key_parse_error")
  | .storeError        => decide (reply.error? = some "store_error")

theorem shows_route (route : Route) (o : Outcome) :
    (Answer.route route).reply.shows o = decide (some Outcome.resolved = some o) := by
  have hstatus : (Answer.route route).reply.status = 200 := rfl
  have herror : (Answer.route route).reply.error? = none := error?_of_status (by simp [hstatus])
  cases o <;> simp [Reply.shows, tellsVerdict_reply_iff, hstatus, herror]

/-- A refusal shows nothing but its kind. -/
theorem shows_refusal (r : Refusal) (o : Outcome) :
    (Answer.refusal r).reply.shows o =
      match o with
      | .resolved          => false
      | .accepted          => false
      | .rejected          => false
      | .malformedIdentity => decide (r.kind = "malformed_identity")
      | .userNotFound      => decide (r.kind = "user_not_found")
      | .keyParseError     => decide (r.kind = "key_parse_error")
      | .storeError        => decide (r.kind = "store_error") := by
  have hstatus : (Answer.refusal r).reply.status = 500 := rfl
  cases o <;> simp [Reply.shows, tellsVerdict_reply_iff, hstatus, error?_refusal]

theorem shows_badRequest (fault : BodyFault) (o : Outcome) :
    (Answer.refusal (.badRequest fault)).reply.shows o = false := by
  rw [shows_refusal]
  cases o <;> rfl

theorem shows_malformedIdentity (e : MalformedIdentity) (o : Outcome) :
    (Answer.refusal (.malformedIdentity e)).reply.shows o =
      decide (some Outcome.malformedIdentity = some o) := by
  rw [shows_refusal]
  cases o <;> rfl

theorem shows_undecided (cause : Undecided) (o : Outcome) :
    (Answer.refusal (.undecided cause)).reply.shows o =
      decide (some (Service.outcome (.error cause)) = some o) := by
  rw [shows_refusal]
  cases cause <;> cases o <;> rfl

theorem shows_verdict (success : Bool) {o : Outcome} (ho : o ≠ .resolved) :
    (Answer.verdict success).reply.shows o =
      decide (some (Service.outcome (.ok success)) = some o) := by
  have herror : (Answer.verdict success).reply.error? = none := error?_of_status (by decide +revert)
  cases success <;> cases o <;>
    simp [Reply.shows, tellsVerdict_reply_iff, herror, Service.outcome] at ho ⊢

/-- A refused body shows no outcome. -/
theorem error?_ne_of_shows {reply : Reply} {o : Outcome} (h : reply.shows o = true) :
    reply.error? ≠ some "bad_request" := by
  intro hbad
  have hstatus : reply.status = 500 := by
    by_cases hstatus : reply.status = 500
    · exact hstatus
    · rw [error?_of_status hstatus] at hbad
      cases hbad
  cases o <;> simp [Reply.shows, Reply.TellsVerdict, hbad, hstatus] at h

namespace Service

/-! ## One step -/

section step
variable (s : Service) (m : Metrics) {r : Request} (seconds : Float)

/-- A route request counts the outcome that its reply shows, if it shows one. -/
theorem reply_config (h : r.posts "/config") :
    ∃ shown : Option Outcome, (∀ o, shown = some o → o ∈ Outcome.ofConfig) ∧
      (s.reply m r seconds).2 = shown.elim m m.countConfig ∧
      ∀ o, (s.reply m r seconds).1.shows o = decide (shown = some o) := by
  rw [reply_of_posts s m seconds h, answer_config s m seconds h]
  cases hbody : RouteRequest.ofBody r.body with
  | error fault =>
    rw [config_of_badRequest s m hbody]
    refine ⟨none, ?_, rfl, ?_⟩
    · intro o ho
      cases ho
    · exact shows_badRequest fault
  | ok q =>
    cases hroute : Route.resolve s.fingerprints q.username with
    | error e =>
      rw [config_of_malformed s m hbody hroute]
      refine ⟨some .malformedIdentity, ?_, rfl, shows_malformedIdentity e⟩
      rintro o ⟨⟩
      decide
    | ok route =>
      rw [config_of_route s m hbody hroute]
      refine ⟨some .resolved, ?_, rfl, shows_route route⟩
      rintro o ⟨⟩
      decide

/-- A key check whose end is known ended as a key check does. -/
theorem outcome_mem_ofPubkey (result : Except Undecided Bool) :
    outcome result ∈ Outcome.ofPubkey := by
  cases result with
  | error cause => cases cause <;> simp [outcome, Outcome.ofPubkey]
  | ok success => cases success <;> simp [outcome, Outcome.ofPubkey]

/-- A key check counts the outcome that its reply shows, if it shows one, and one duration
    with it. -/
theorem reply_pubkey (h : r.posts "/pubkey") :
    ∃ shown : Option Outcome, (∀ o, shown = some o → o ∈ Outcome.ofPubkey) ∧
      (s.reply m r seconds).2 = shown.elim m (m.observe seconds).countKey ∧
      ∀ o, o ≠ .resolved → (s.reply m r seconds).1.shows o = decide (shown = some o) := by
  rw [reply_of_posts s m seconds h, answer_pubkey s m seconds h]
  cases hbody : KeyRequest.ofBody r.body with
  | error fault =>
    rw [pubkey_of_badRequest s m seconds hbody]
    refine ⟨none, ?_, rfl, ?_⟩
    · intro o ho
      cases ho
    · intro o _
      exact shows_badRequest fault o
  | ok q =>
    cases hverify : verify s.store q.username q.publicKey with
    | error cause =>
      rw [pubkey_of_undecided s m seconds hbody hverify]
      refine ⟨some (outcome (.error cause)), ?_, rfl, ?_⟩
      · rintro o ⟨⟩
        exact outcome_mem_ofPubkey _
      · intro o _
        exact shows_undecided cause o
    | ok success =>
      rw [pubkey_of_verdict s m seconds hbody hverify]
      refine ⟨some (outcome (.ok success)), ?_, rfl, ?_⟩
      · rintro o ⟨⟩
        exact outcome_mem_ofPubkey _
      · intro o ho
        exact shows_verdict success ho

theorem metrics_reply_of_not_posts (hconfig : ¬ r.posts "/config") (hpubkey : ¬ r.posts "/pubkey") :
    (s.reply m r seconds).2 = m := by
  obtain ⟨a, reply, hreply, -, -⟩ := s.reply_of_not_posts m seconds hconfig hpubkey
  rw [hreply]

/-- A request that no webhook takes, or whose body is refused, leaves the metrics alone. -/
theorem metrics_reply_of_other
    (h : (¬ r.posts "/config" ∧ ¬ r.posts "/pubkey") ∨
      (s.reply m r seconds).1.error? = some "bad_request") :
    (s.reply m r seconds).2 = m := by
  rcases h with ⟨hconfig, hpubkey⟩ | hbad
  · exact s.metrics_reply_of_not_posts m seconds hconfig hpubkey
  · -- Had an outcome been counted, the reply would show it, and no such reply is this one.
    have hnone : ∀ o, (s.reply m r seconds).1.shows o ≠ true := by
      intro o hshows
      exact error?_ne_of_shows hshows hbad
    by_cases hconfig : r.posts "/config"
    · obtain ⟨shown, -, hmetrics, hshows⟩ := s.reply_config m seconds hconfig
      cases shown with
      | none => exact hmetrics
      | some o => exact absurd (by rw [hshows, decide_eq_true rfl]) (hnone o)
    · by_cases hpubkey : r.posts "/pubkey"
      · obtain ⟨shown, hmem, hmetrics, hshows⟩ := s.reply_pubkey m seconds hpubkey
        cases shown with
        | none => exact hmetrics
        | some o =>
          have ho : o ≠ .resolved := by
            rintro rfl
            exact absurd (hmem _ rfl) (by decide)
          exact absurd (by rw [hshows o ho, decide_eq_true rfl]) (hnone o)
      · exact s.metrics_reply_of_not_posts m seconds hconfig hpubkey

/-- Only a route request is counted as one. -/
theorem configRequests_reply (hconfig : ¬ r.posts "/config") :
    (s.reply m r seconds).2.configRequests = m.configRequests := by
  by_cases hpubkey : r.posts "/pubkey"
  · obtain ⟨shown, -, hmetrics, -⟩ := s.reply_pubkey m seconds hpubkey
    rw [hmetrics]
    cases shown <;> rfl
  · rw [s.metrics_reply_of_not_posts m seconds hconfig hpubkey]

/-- Only a key check is counted as one, and timed. -/
theorem keyRequests_reply (hpubkey : ¬ r.posts "/pubkey") :
    (s.reply m r seconds).2.keyRequests = m.keyRequests ∧
      (s.reply m r seconds).2.keyDurations = m.keyDurations := by
  by_cases hconfig : r.posts "/config"
  · obtain ⟨shown, -, hmetrics, -⟩ := s.reply_config m seconds hconfig
    rw [hmetrics]
    cases shown <;> exact ⟨rfl, rfl⟩
  · rw [s.metrics_reply_of_not_posts m seconds hconfig hpubkey]
    exact ⟨rfl, rfl⟩

/-- The tally of route requests grows by what the reply shows. -/
theorem count_config_reply (o : Outcome) :
    (s.reply m r seconds).2.configRequests.count o = m.configRequests.count o +
      if r.posts "/config" ∧ (s.reply m r seconds).1.shows o = true then 1 else 0 := by
  by_cases hconfig : r.posts "/config"
  · obtain ⟨shown, -, hmetrics, hshows⟩ := s.reply_config m seconds hconfig
    have htally : (s.reply m r seconds).2.configRequests =
        shown.elim m.configRequests m.configRequests.add := by
      rw [hmetrics]
      cases shown <;> rfl
    rw [htally, Tally.count_elim, hshows]
    simp [hconfig]
  · rw [configRequests_reply s m seconds hconfig, if_neg fun h => hconfig h.1]
    rfl

/-- The tally of key checks grows by what the reply shows. -/
theorem count_key_reply {o : Outcome} (ho : o ≠ .resolved) :
    (s.reply m r seconds).2.keyRequests.count o = m.keyRequests.count o +
      if r.posts "/pubkey" ∧ (s.reply m r seconds).1.shows o = true then 1 else 0 := by
  by_cases hpubkey : r.posts "/pubkey"
  · obtain ⟨shown, -, hmetrics, hshows⟩ := s.reply_pubkey m seconds hpubkey
    have htally : (s.reply m r seconds).2.keyRequests =
        shown.elim m.keyRequests m.keyRequests.add := by
      rw [hmetrics]
      cases shown <;> rfl
    rw [htally, Tally.count_elim, hshows o ho]
    simp [hpubkey]
  · rw [(keyRequests_reply s m seconds hpubkey).1, if_neg fun h => hpubkey h.1]
    rfl

/-- Each tally counts outcomes of its own only, and every key check that is counted is timed. -/
structure Balanced (m : Metrics) : Prop where
  config    : ∀ o, o ∉ Outcome.ofConfig → m.configRequests.count o = 0
  pubkey    : ∀ o, o ∉ Outcome.ofPubkey → m.keyRequests.count o = 0
  durations : m.keyRequests.total Outcome.all = m.keyDurations.count

theorem Balanced.countConfig {m : Metrics} (h : Balanced m) {o : Outcome}
    (ho : o ∈ Outcome.ofConfig) : Balanced (m.countConfig o) where
  config := by
    intro p hp
    have hne : p ≠ o := fun heq => hp (heq ▸ ho)
    show (m.configRequests.add o).count p = 0
    rw [Tally.count_add, if_neg hne, h.config p hp]
  pubkey := h.pubkey
  durations := h.durations

theorem Balanced.countKey {m : Metrics} (h : Balanced m) {o : Outcome} (ho : o ∈ Outcome.ofPubkey) :
    Balanced ((m.observe seconds).countKey o) where
  config := h.config
  pubkey := by
    intro p hp
    have hne : p ≠ o := fun heq => hp (heq ▸ ho)
    show (m.keyRequests.add o).count p = 0
    rw [Tally.count_add, if_neg hne, h.pubkey p hp]
  durations := by
    show (m.keyRequests.add o).total Outcome.all = m.keyDurations.count + 1
    rw [Tally.total_add, h.durations]

theorem balanced_reply {m : Metrics} (h : Balanced m) : Balanced (s.reply m r seconds).2 := by
  by_cases hconfig : r.posts "/config"
  · obtain ⟨shown, hmem, hmetrics, -⟩ := s.reply_config m seconds hconfig
    rw [hmetrics]
    cases shown with
    | none => exact h
    | some o => exact h.countConfig (hmem o rfl)
  · by_cases hpubkey : r.posts "/pubkey"
    · obtain ⟨shown, hmem, hmetrics, -⟩ := s.reply_pubkey m seconds hpubkey
      rw [hmetrics]
      cases shown with
      | none => exact h
      | some o => exact h.countKey seconds (hmem o rfl)
    · rw [s.metrics_reply_of_not_posts m seconds hconfig hpubkey]
      exact h

end step

/-! ## Runs -/

section run
variable (s : Service)

theorem balanced_initial : Balanced s.initial where
  config o _ := Tally.count_zero o
  pubkey o _ := Tally.count_zero o
  durations := Tally.total_zero Outcome.all

/-- The tally of route requests grows by the number of replies that show the outcome. -/
theorem count_config_run (m : Metrics) (rs : List (Request × Float)) (o : Outcome) :
    (s.run m rs).2.configRequests.count o = m.configRequests.count o +
      (rs.zip (s.run m rs).1).countP fun e => e.1.1.posts "/config" ∧ e.2.shows o = true := by
  refine s.run_counts (f := fun m => m.configRequests.count o)
    (p := fun r reply => r.posts "/config" ∧ reply.shows o = true) ?_ m rs
  intro m r seconds
  simp only [decide_eq_true_eq]
  exact s.count_config_reply m seconds o

/-- The tally of key checks grows by the number of replies that show the outcome. -/
theorem count_key_run (m : Metrics) (rs : List (Request × Float)) {o : Outcome}
    (ho : o ≠ .resolved) :
    (s.run m rs).2.keyRequests.count o = m.keyRequests.count o +
      (rs.zip (s.run m rs).1).countP fun e => e.1.1.posts "/pubkey" ∧ e.2.shows o = true := by
  refine s.run_counts (f := fun m => m.keyRequests.count o)
    (p := fun r reply => r.posts "/pubkey" ∧ reply.shows o = true) ?_ m rs
  intro m r seconds
  simp only [decide_eq_true_eq]
  exact s.count_key_reply m seconds ho

/-- Where the other outcomes were not counted, they may be left out. -/
theorem filter_all_of_count {t : Tally} {os : List Outcome}
    (hos : Outcome.all.filter (fun o => decide (o ∈ os)) = os)
    (hzero : ∀ o, o ∉ os → t.count o = 0) :
    (Outcome.all.filter fun o => t.count o ≠ 0) = os.filter fun o => t.count o ≠ 0 := by
  have hboth : (Outcome.all.filter fun o => t.count o ≠ 0) =
      Outcome.all.filter fun o => decide (t.count o ≠ 0) && decide (o ∈ os) := by
    apply List.filter_congr
    intro o _
    by_cases ho : o ∈ os
    · simp [ho]
    · simp [ho, hzero o ho]
  rw [hboth, ← List.filter_filter, hos]

/-- After a run the metrics account for its replies:
    * each counter is the number of requests to its webhook whose reply shows the outcome;
    * the durations are as many as the key checks counted;
    * the exposition, cut into its lines, has these counts as its samples, one for each outcome
      that occurred and none besides;
    * a request that no webhook takes, or whose body is refused, changes nothing. -/
theorem run_accounts (s : Service) (rs : List (Request × Float)) :
    let replies := (s.run s.initial rs).1
    let m := (s.run s.initial rs).2
    replies.length = rs.length ∧
      (∀ o ∈ Outcome.ofConfig, m.configRequests.count o =
        (rs.zip replies).countP fun e => e.1.1.posts "/config" ∧ e.2.shows o = true) ∧
      (∀ o ∈ Outcome.ofPubkey, m.keyRequests.count o =
        (rs.zip replies).countP fun e => e.1.1.posts "/pubkey" ∧ e.2.shows o = true) ∧
      m.keyDurations.count = m.keyRequests.total Outcome.ofPubkey ∧
      Exposition.linesOf m.exposition = m.lines ∧
      Exposition.samplesIn "sshgate_config_requests" m.lines =
        (Outcome.ofConfig.filter fun o => m.configRequests.count o ≠ 0).map
          (Exposition.outcomeSample "sshgate_config_requests" m.configRequests) ∧
      Exposition.samplesIn "sshgate_pubkey_requests" m.lines =
        (Outcome.ofPubkey.filter fun o => m.keyRequests.count o ≠ 0).map
          (Exposition.outcomeSample "sshgate_pubkey_requests" m.keyRequests) ∧
      Exposition.sample "sshgate_pubkey_duration_seconds_count" (toString m.keyDurations.count) ∈
        m.lines ∧
      ∀ i r seconds reply, rs[i]? = some (r, seconds) → replies[i]? = some reply →
        (¬ r.posts "/config" ∧ ¬ r.posts "/pubkey") ∨ reply.error? = some "bad_request" →
        (s.run s.initial (rs.take (i + 1))).2 = (s.run s.initial (rs.take i)).2 := by
  intro replies m
  -- The tallies start at zero, so what they grew by is what they are.
  have hbalanced : Balanced m :=
    s.run_invariant (fun _ _ seconds h => s.balanced_reply seconds h) s.balanced_initial rs
  refine ⟨length_inTurn s.exchange s.initial rs, ?_, ?_, ?_, m.linesOf_exposition, ?_, ?_,
    m.count_mem_lines, ?_⟩
  · intro o _
    have hcount := s.count_config_run s.initial rs o
    rwa [show s.initial.configRequests.count o = 0 from Tally.count_zero o, Nat.zero_add] at hcount
  · intro o ho
    have hne : o ≠ .resolved := by
      rintro rfl
      exact absurd ho (by decide)
    have hcount := s.count_key_run s.initial rs hne
    rwa [show s.initial.keyRequests.count o = 0 from Tally.count_zero o, Nat.zero_add] at hcount
  · -- All outcomes but one belong to key checks, and that one was never counted.
    have hresolved : m.keyRequests.count .resolved = 0 := hbalanced.pubkey _ (by decide)
    rw [← hbalanced.durations]
    show m.keyRequests.count .resolved + m.keyRequests.total Outcome.ofPubkey = _
    rw [hresolved, Nat.zero_add]
  · rw [m.samplesIn_configRequests, filter_all_of_count (by decide) hbalanced.config]
  · rw [m.samplesIn_keyRequests, filter_all_of_count (by decide) hbalanced.pubkey]
  · intro i r seconds reply hr hreply hother
    rw [s.metrics_run_take_succ s.initial hr]
    have hat := s.getElem?_run s.initial rs i
    rw [hr, show (s.run s.initial rs).1[i]? = some reply from hreply] at hat
    obtain rfl := Option.some.inj hat
    exact s.metrics_reply_of_other _ seconds hother

end run

end Service

end Http

end Gatehouse
