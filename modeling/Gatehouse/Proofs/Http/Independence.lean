import Gatehouse.Proofs.Http.Isolation

/-! # Requests that leave no trace

    All requests share the metrics and nothing else, and only who asks for the metrics reads
    them.  So every other request has the reply that it would have as the first one
    (`reply_eq_fresh`).

    The metrics after a run are sums over its replies.  As the replies to counted requests do
    not depend on their place, the sums do not depend on the order (`countP_run`): whichever
    way the requests are arranged, the same is answered and the same is counted
    (`run_independent`). -/

namespace Gatehouse.Http.Service

/-! ## Replies -/

/-- The reply of a service that has just started. -/
def fresh (s : Service) (r : Request) : Reply := (s.reply s.initial r 0).1

/-- Whoever does not ask for the metrics is replied to as if nobody had asked before. -/
theorem reply_eq_fresh (s : Service) (m : Metrics) {r : Request} (seconds : Float)
    (hpath : r.path ≠ "/metrics") : (s.reply m r seconds).1 = s.fresh r :=
  reply_congr ⟨rfl, rfl, fun _ _ _ => rfl, fun h => absurd h hpath⟩

theorem getElem?_run_eq_fresh (s : Service) (m : Metrics) {rs : List (Request × Float)} {i : Nat}
    {r : Request} {seconds : Float} (hr : rs[i]? = some (r, seconds))
    (hpath : r.path ≠ "/metrics") : (s.run m rs).1[i]? = some (s.fresh r) := by
  rw [getElem?_run, hr]
  exact congrArg some (reply_eq_fresh s _ seconds hpath)

/-! ## Counts -/

/-- Exchanges of a kind may be counted before they take place. -/
theorem countP_run (s : Service) {p : Request → Reply → Bool}
    (hp : ∀ r reply, r.path = "/metrics" → p r reply = false) (m : Metrics)
    (rs : List (Request × Float)) :
    (rs.zip (s.run m rs).1).countP (fun e => p e.1.1 e.2) =
      (rs.map Prod.fst).countP fun r => p r (s.fresh r) := by
  induction rs generalizing m with
  | nil => rfl
  | cons e rs ih =>
    obtain ⟨r, seconds⟩ := e
    have hfirst : p r (s.reply m r seconds).1 = p r (s.fresh r) := by
      by_cases hpath : r.path = "/metrics"
      · rw [hp r _ hpath, hp r _ hpath]
      · rw [reply_eq_fresh s m seconds hpath]
    rw [run_cons, List.zip_cons_cons, List.countP_cons, List.map_cons, List.countP_cons, ih]
    simp only [hfirst]

/-- Who asks for the metrics is not counted by a webhook. -/
theorem not_counted (path : String) (hpath : path ≠ "/metrics") (o : Outcome) (r : Request)
    (reply : Reply) (h : r.path = "/metrics") :
    decide (r.posts path ∧ reply.shows o = true) = false := by
  apply decide_eq_false
  rintro ⟨hposts, -⟩
  exact hpath (hposts.2.symm.trans h)

/-- The number of fingerprints is shown and never changed. -/
theorem fingerprints_reply (s : Service) (m : Metrics) (r : Request) (seconds : Float) :
    (s.reply m r seconds).2.fingerprints = m.fingerprints := by
  by_cases hconfig : r.posts "/config"
  · obtain ⟨shown, -, hmetrics, -⟩ := s.reply_config m seconds hconfig
    rw [hmetrics]
    cases shown <;> rfl
  · by_cases hpubkey : r.posts "/pubkey"
    · obtain ⟨shown, -, hmetrics, -⟩ := s.reply_pubkey m seconds hpubkey
      rw [hmetrics]
      cases shown <;> rfl
    · rw [s.metrics_reply_of_not_posts m seconds hconfig hpubkey]

theorem fingerprints_run (s : Service) (m : Metrics) (rs : List (Request × Float)) :
    (s.run m rs).2.fingerprints = m.fingerprints :=
  s.run_invariant (P := fun m' => m'.fingerprints = m.fingerprints)
    (fun m' r seconds h => (s.fingerprints_reply m' r seconds).trans h) rfl rs

theorem balanced_run (s : Service) (rs : List (Request × Float)) :
    Balanced (s.run s.initial rs).2 :=
  s.run_invariant (fun _ _ seconds h => s.balanced_reply seconds h) s.balanced_initial rs

section perm
variable (s : Service) {rs rs' : List (Request × Float)}

/-- Route requests are counted alike in every order. -/
theorem configRequests_run_of_perm (h : (rs.map Prod.fst).Perm (rs'.map Prod.fst)) :
    (s.run s.initial rs).2.configRequests = (s.run s.initial rs').2.configRequests := by
  apply Tally.ext_count
  intro o
  have hother := not_counted "/config" (by decide) o
  rw [count_config_run, count_config_run, countP_run s hother, countP_run s hother, h.countP_eq]

/-- Key checks are counted alike in every order. -/
theorem keyRequests_run_of_perm (h : (rs.map Prod.fst).Perm (rs'.map Prod.fst)) :
    (s.run s.initial rs).2.keyRequests = (s.run s.initial rs').2.keyRequests := by
  apply Tally.ext_count
  intro o
  by_cases ho : o = .resolved
  · -- No key check ends like this, so it was not counted in either order.
    have hnone : o ∉ Outcome.ofPubkey := by
      rw [ho]
      decide
    rw [(s.balanced_run rs).pubkey o hnone, (s.balanced_run rs').pubkey o hnone]
  · have hother := not_counted "/pubkey" (by decide) o
    rw [count_key_run s s.initial rs ho, count_key_run s s.initial rs' ho, countP_run s hother,
      countP_run s hother, h.countP_eq]

end perm

/-- Requests do not influence each other:
    * a request that does not ask for the metrics has the reply that it has when it is the only
      one, however long key checks take;
    * in whichever order the requests come, each of these has the same reply, and afterwards
      the metrics have the same counters, the same gauge and the same number of durations. -/
theorem run_independent (s : Service) (rs : List (Request × Float)) :
    (∀ (i : Nat) (r : Request) (seconds seconds' : Float), rs[i]? = some (r, seconds) →
      r.path ≠ "/metrics" → ∃ reply, (s.run s.initial rs).1[i]? = some reply ∧
        (s.run s.initial [(r, seconds')]).1 = [reply]) ∧
    ∀ rs' : List (Request × Float), (rs.map Prod.fst).Perm (rs'.map Prod.fst) →
      let m := (s.run s.initial rs).2
      let m' := (s.run s.initial rs').2
      (∀ (i j : Nat) (r : Request) (seconds seconds' : Float), rs[i]? = some (r, seconds) →
        rs'[j]? = some (r, seconds') → r.path ≠ "/metrics" →
        ∃ reply, (s.run s.initial rs).1[i]? = some reply ∧
          (s.run s.initial rs').1[j]? = some reply) ∧
      (∀ o, m.configRequests.count o = m'.configRequests.count o) ∧
      (∀ o, m.keyRequests.count o = m'.keyRequests.count o) ∧
      m.fingerprints = m'.fingerprints ∧ m.keyDurations.count = m'.keyDurations.count := by
  constructor
  · intro i r seconds seconds' hr hpath
    refine ⟨s.fresh r, getElem?_run_eq_fresh s _ hr hpath, ?_⟩
    show [(s.reply s.initial r seconds').1] = [s.fresh r]
    rw [reply_eq_fresh s _ seconds' hpath]
  · intro rs' hperm m m'
    have hkeys : m.keyRequests = m'.keyRequests := keyRequests_run_of_perm s hperm
    refine ⟨?_, ?_, ?_, ?_, ?_⟩
    · intro i j r seconds seconds' hr hr' hpath
      exact ⟨s.fresh r, getElem?_run_eq_fresh s _ hr hpath, getElem?_run_eq_fresh s _ hr' hpath⟩
    · intro o
      exact congrArg (·.count o) (configRequests_run_of_perm s hperm)
    · intro o
      exact congrArg (·.count o) hkeys
    · exact (s.fingerprints_run _ rs).trans (s.fingerprints_run _ rs').symm
    · -- Every key check that was counted was timed.
      rw [← (s.balanced_run rs).durations, ← (s.balanced_run rs').durations]
      exact congrArg (·.total Outcome.all) hkeys

end Gatehouse.Http.Service
