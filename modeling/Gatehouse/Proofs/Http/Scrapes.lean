import Gatehouse.Proofs.Http.Traffic
import Gatehouse.Proofs.Result
import Mathlib.Data.List.Infix

/-! # Scrapes under way

    A scrape takes its time, and meanwhile key checks go on.  Two things make what it shows
    consistent all the same.  A key check is observed first and counted afterwards, so the
    durations are ahead of the counts by the key checks in between (`Consistent.balance`).  A
    scrape reads the counts first and the durations afterwards, so what it has read of the
    counts is behind already (`Covers.step`).

    What a scrape has read was in the metrics at some time since it began.  As readings only
    rise, it is at most what the metrics are now and at least what they were then
    (`Shows.step`), and two scrapes of which one follows the other show no counter going back
    (`scrapes_consistent`). -/

namespace Gatehouse.Http

open Metrics (Sample Reading)

namespace Call

/-! ## What a call does to the metrics -/

/-- The call is a key check without its answer. -/
def InFlight (call : Call) : Prop := ∃ phase, call = .check phase

/-- The call is a key check between its observation and its count. -/
def isUncounted : Call → Bool
  | .check (.observed _) => true
  | _                    => false

theorem inFlight_of_isUncounted {call : Call} (h : call.isUncounted = true) : call.InFlight := by
  cases call with
  | check phase => exact ⟨phase, rfl⟩
  | _ => cases h

section step
variable (s : Service) (m : Metrics) (seconds : Float) (call : Call)

theorem rises_step : m.Rises (call.step s m seconds).2 := by
  cases call with
  | check phase =>
    cases phase with
    | received q => exact m.rises_refl
    | verified result => exact m.rises_observe seconds
    | observed result => exact m.rises_countKey _
    | counted result => exact m.rises_refl
  | routing phase =>
    cases phase with
    | received q => exact m.rises_refl
    | resolved result => exact m.rises_countConfig _
    | counted result => exact m.rises_refl
  | scrape shown left => cases left <;> exact m.rises_refl
  | answered a => exact m.rises_refl

/-- The observations are as far ahead of the counts as before, but for the call itself. -/
theorem balance_step :
    (call.step s m seconds).2.keyDurations.count + m.keyRequests.total Outcome.all
        + (if call.isUncounted then 1 else 0) =
      m.keyDurations.count + (call.step s m seconds).2.keyRequests.total Outcome.all
        + (if (call.step s m seconds).1.isUncounted then 1 else 0) := by
  cases call with
  | check phase =>
    cases phase with
    | received q => rfl
    | verified result =>
      -- Observed, but not counted: one more in between.
      show m.keyDurations.count + 1 + m.keyRequests.total Outcome.all + 0 =
        m.keyDurations.count + m.keyRequests.total Outcome.all + 1
      omega
    | observed result =>
      -- Counted at last: one less in between.
      have htotal := m.keyRequests.total_add (Service.outcome result)
      show m.keyDurations.count + m.keyRequests.total Outcome.all + 1 =
        m.keyDurations.count + (m.keyRequests.add (Service.outcome result)).total Outcome.all + 0
      omega
    | counted result => rfl
  | routing phase => cases phase <;> rfl
  | scrape shown left => cases left <;> rfl
  | answered a => rfl

end step

/-! ## Calls that do not read -/

/-- The call neither reads the metrics nor shows what was read. -/
def Silent : Call → Prop
  | .scrape _ _            => False
  | .answered (.metrics _) => False
  | _                      => True

theorem silent_check (phase : KeyCheck) : Silent (.check phase) := trivial

theorem silent_routing (phase : Routing) : Silent (.routing phase) := trivial

theorem silent_answered {a : Answer} (h : ∀ m, a ≠ .metrics m) : Silent (.answered a) := by
  cases a with
  | metrics m => exact absurd rfl (h m)
  | _ => trivial

theorem Silent.step {call : Call} (h : call.Silent) (s : Service) (m : Metrics)
    (seconds : Float) : (call.step s m seconds).1.Silent := by
  cases call with
  | check phase =>
    cases phase with
    | counted result => cases result <;> trivial
    | _ => trivial
  | routing phase =>
    cases phase with
    | counted result => cases result <;> trivial
    | _ => trivial
  | scrape shown left => exact h.elim
  | answered a => exact h

/-! ## What a scrape has read -/

/-- Everything that the call has read so far is so. -/
def Shows (P : Sample → Reading → Prop) : Call → Prop
  | .scrape shown left          => ∀ sample, sample ∉ left → P sample (sample.read shown)
  | .answered (.metrics shown) => ∀ sample, P sample (sample.read shown)
  | _                           => True

section shows
variable {P Q : Sample → Reading → Prop} {call : Call}

theorem Silent.shows (h : call.Silent) : call.Shows P := by
  cases call with
  | scrape shown left => exact h.elim
  | answered a =>
    cases a with
    | metrics m => exact h.elim
    | _ => trivial
  | _ => trivial

theorem Shows.mono (h : call.Shows P) (hPQ : ∀ sample v, P sample v → Q sample v) :
    call.Shows Q := by
  cases call with
  | scrape shown left => exact fun sample hsample => hPQ _ _ (h sample hsample)
  | answered a =>
    cases a with
    | metrics shown => exact fun sample => hPQ _ _ (h sample)
    | _ => trivial
  | _ => trivial

/-- A step reads at most one sample, of the metrics as they are. -/
theorem Shows.step (h : call.Shows P) (s : Service) {m : Metrics} (seconds : Float)
    (hm : ∀ sample : Sample, P sample (sample.read m)) :
    (call.step s m seconds).1.Shows P := by
  cases call with
  | check phase => exact ((silent_check phase).step s m seconds).shows
  | routing phase => exact ((silent_routing phase).step s m seconds).shows
  | scrape shown left =>
    cases left with
    | nil => exact fun sample => h sample List.not_mem_nil
    | cons sample left =>
      -- The sample is read in the metrics as they are, all others as before.
      intro other hother
      rw [Metrics.Sample.read_copy]
      by_cases heq : other = sample
      · rw [if_pos heq]
        exact hm other
      · have hunread : other ∉ sample :: left := by
          rw [List.mem_cons]
          exact not_or.2 ⟨heq, hother⟩
        rw [if_neg heq]
        exact h other hunread
  | answered a => exact h

/-- A call that has just started has read nothing. -/
theorem Fresh.shows (h : call.Fresh) : call.Shows P := by
  cases h with
  | scrape => exact fun sample hsample => absurd sample.mem_all hsample
  | answered ha => exact (silent_answered ha).shows
  | _ => trivial

end shows

/-! ## Counts before durations -/

/-- While a key check's count is left to be read, so is the histogram, and when the histogram
    is read, all counts are. -/
theorem order_all :
    ∀ left ∈ Sample.all.tails, ∀ o ∈ Outcome.all,
      (left.head? = some (.key o) → .durations ∈ left.tail) ∧
      (left.head? = some .durations → .key o ∉ left) := by decide

/-- The call reads in order, and once it has read the durations, they are as many as the key
    checks that it has seen counted. -/
def Covers : Call → Prop
  | .scrape shown left         =>
    left <:+ Sample.all ∧ (Sample.durations ∈ left ∨ shown.Covered)
  | .answered (.metrics shown) => shown.Covered
  | _                          => True

theorem Silent.covers {call : Call} (h : call.Silent) : call.Covers := by
  cases call with
  | scrape shown left => exact h.elim
  | answered a =>
    cases a with
    | metrics m => exact h.elim
    | _ => trivial
  | _ => trivial

/-- What a scrape sees of the counts is covered by the durations it reads afterwards. -/
theorem covered_copy_durations {m shown : Metrics} {left : List Sample}
    (hm : m.Covered) (horder : .durations :: left <:+ Sample.all)
    (hread : ∀ sample, sample ∉ Sample.durations :: left →
      (sample.read shown).AtMost (sample.read m)) :
    (Sample.durations.copy m shown).Covered := by
  have hcounts : ∀ o, shown.keyRequests.count o ≤ m.keyRequests.count o := by
    intro o
    have hunread := (order_all _ ((List.mem_tails _ _).2 horder) o o.mem_all).2 rfl
    cases hread (.key o) hunread with
    | count hle => exact hle
  exact Nat.le_trans (Tally.total_le_total hcounts Outcome.all) hm

/-- A step keeps what the call has read covered. -/
theorem Covers.step {call : Call} (h : call.Covers) (s : Service) {m : Metrics}
    (seconds : Float) (hm : m.Covered)
    (hshows : call.Shows fun sample v => v.AtMost (sample.read m)) :
    (call.step s m seconds).1.Covers := by
  cases call with
  | check phase => exact ((silent_check phase).step s m seconds).covers
  | routing phase => exact ((silent_routing phase).step s m seconds).covers
  | scrape shown left =>
    cases left with
    | nil => exact h.2.resolve_left List.not_mem_nil
    | cons sample left =>
      obtain ⟨horder, hcovered⟩ := h
      have hrest : left <:+ Sample.all := (List.suffix_cons sample left).trans horder
      refine ⟨hrest, ?_⟩
      have hleft (hne : Sample.durations ≠ sample) (hmem : Sample.durations ∈ sample :: left) :
          Sample.durations ∈ left := List.mem_of_ne_of_mem hne hmem
      -- Counts come before the histogram, which is then still to be read; whatever comes after
      -- it leaves both alone.
      cases sample with
      | key o => exact .inl ((order_all _ ((List.mem_tails _ _).2 horder) o o.mem_all).1 rfl)
      | durations => exact .inr (covered_copy_durations hm horder hshows)
      | config o => exact hcovered.imp (hleft Sample.noConfusion) id
      | fingerprints => exact hcovered.imp (hleft Sample.noConfusion) id
  | answered a => exact h

theorem Fresh.covers {call : Call} (h : call.Fresh) : call.Covers := by
  cases h with
  | scrape => exact ⟨List.suffix_rfl, .inl (by decide)⟩
  | answered ha => exact (silent_answered ha).covers
  | _ => trivial

theorem Fresh.not_isUncounted {call : Call} (h : call.Fresh) : call.isUncounted = false := by
  cases h <;> rfl

end Call

/-! ## Traffic -/

namespace Traffic

section event
variable (s : Service) {t : Traffic} (e : Event)

/-- A turn of a call that is not there changes nothing. -/
theorem step_turn_none {i : Nat} (h : t.calls[i]? = none) (seconds : Float) :
    t.step s (.turn i seconds) = t := by
  simp only [step, h]

theorem rises_event : t.metrics.Rises (t.step s e).metrics := by
  cases e with
  | arrival r => exact t.metrics.rises_refl
  | turn i seconds =>
    cases hcall : t.calls[i]? with
    | none =>
      rw [step_turn_none s hcall]
      exact t.metrics.rises_refl
    | some call =>
      rw [step_turn s hcall]
      exact Call.rises_step s t.metrics seconds call

/-- What fresh calls have and a step does not take away, the call at a place still has after
    an event. -/
theorem call_event {P : Call → Prop} {j : Nat} (h : ∀ call, t.calls[j]? = some call → P call)
    (hfresh : ∀ call : Call, call.Fresh → P call)
    (hstep : ∀ (call : Call) seconds, P call → P (call.step s t.metrics seconds).1) :
    ∀ call, (t.step s e).calls[j]? = some call → P call := by
  intro call' hcall'
  cases e with
  | arrival r =>
    change (t.calls ++ [Call.start s r])[j]? = some call' at hcall'
    rw [List.getElem?_append] at hcall'
    by_cases hj : j < t.calls.length
    · rw [if_pos hj] at hcall'
      exact h call' hcall'
    · rw [if_neg hj] at hcall'
      obtain rfl := List.mem_singleton.1 (List.mem_of_getElem? hcall')
      exact hfresh _ (Call.fresh_start s r)
  | turn i seconds =>
    cases hcall : t.calls[i]? with
    | none =>
      rw [step_turn_none s hcall] at hcall'
      exact h call' hcall'
    | some call =>
      rw [step_turn s hcall] at hcall'
      by_cases hij : i = j
      · subst hij
        have hi := (List.getElem?_eq_some_iff.1 hcall).1
        rw [List.getElem?_set_self hi] at hcall'
        cases hcall'
        exact hstep call seconds (h call hcall)
      · rw [List.getElem?_set_ne hij] at hcall'
        exact h call' hcall'

end event

/-! ## What holds at any time -/

/-- The durations are ahead of the counts by the key checks in between, and what the calls
    have read is behind the metrics and covered. -/
structure Consistent (t : Traffic) : Prop where
  balance : t.metrics.keyDurations.count =
    t.metrics.keyRequests.total Outcome.all + t.calls.countP Call.isUncounted
  shows   : ∀ call ∈ t.calls, call.Shows fun sample v => v.AtMost (sample.read t.metrics)
  covers  : ∀ call ∈ t.calls, call.Covers

theorem consistent_initial (s : Service) : (initial s).Consistent where
  balance := (Tally.total_zero Outcome.all).symm
  shows := fun _ hcall => absurd hcall List.not_mem_nil
  covers := fun _ hcall => absurd hcall List.not_mem_nil

theorem balance_event (s : Service) {t : Traffic} (e : Event)
    (h : t.metrics.keyDurations.count =
      t.metrics.keyRequests.total Outcome.all + t.calls.countP Call.isUncounted) :
    (t.step s e).metrics.keyDurations.count =
      (t.step s e).metrics.keyRequests.total Outcome.all
        + (t.step s e).calls.countP Call.isUncounted := by
  cases e with
  | arrival r =>
    have hstart := (Call.fresh_start s r).not_isUncounted
    have hcalls : (t.calls ++ [Call.start s r]).countP Call.isUncounted =
        t.calls.countP Call.isUncounted := by
      simp [hstart]
    show t.metrics.keyDurations.count = t.metrics.keyRequests.total Outcome.all
      + (t.calls ++ [Call.start s r]).countP Call.isUncounted
    rw [hcalls]
    exact h
  | turn i seconds =>
    cases hcall : t.calls[i]? with
    | none =>
      rw [step_turn_none s hcall]
      exact h
    | some call =>
      -- The call in turn is the only one that can join or leave the calls in between.
      obtain ⟨hi, rfl⟩ := List.getElem?_eq_some_iff.1 hcall
      have hbalance := Call.balance_step s t.metrics seconds t.calls[i]
      have hone := List.boole_getElem_le_countP (p := Call.isUncounted) hi
      rw [step_turn s hcall, List.countP_set hi]
      dsimp only
      omega

theorem Consistent.covered {t : Traffic} (h : t.Consistent) : t.metrics.Covered :=
  Nat.le.intro h.balance.symm

theorem Consistent.event {t : Traffic} (h : t.Consistent) (s : Service) (e : Event) :
    (t.step s e).Consistent := by
  -- Both facts about calls at once: what is covered rests on what was read before.
  have hcalls (j : Nat) : ∀ call, (t.step s e).calls[j]? = some call →
      call.Covers ∧ call.Shows fun sample v => v.AtMost (sample.read t.metrics) := by
    refine call_event s e ?_ ?_ ?_
    · intro call hcall
      have hmem := List.mem_of_getElem? hcall
      exact ⟨h.covers call hmem, h.shows call hmem⟩
    · intro call hfresh
      exact ⟨hfresh.covers, hfresh.shows⟩
    · rintro call seconds ⟨hcovers, hshows⟩
      exact ⟨hcovers.step s seconds h.covered hshows,
        hshows.step s seconds fun _ => Reading.atMost_refl _⟩
  refine ⟨balance_event s e h.balance, ?_, ?_⟩
  · intro call hcall
    obtain ⟨j, hj⟩ := List.mem_iff_getElem?.1 hcall
    exact (hcalls j call hj).2.mono fun sample v hle => hle.trans (rises_event s e sample)
  · intro call hcall
    obtain ⟨j, hj⟩ := List.mem_iff_getElem?.1 hcall
    exact (hcalls j call hj).1

theorem Consistent.after {t : Traffic} (h : t.Consistent) (s : Service) (events : List Event) :
    (t.after s events).Consistent :=
  events.foldlRecOn (step s) h fun _ ht e _ => ht.event s e

/-! ## What is read later -/

/-- The metrics are beyond those of an earlier time, and so is all that the call at a place
    has read. -/
structure Beyond (base : Metrics) (j : Nat) (t : Traffic) : Prop where
  rises : base.Rises t.metrics
  shows : ∀ call, t.calls[j]? = some call →
    call.Shows fun sample v => (sample.read base).AtMost v

theorem Beyond.event {base : Metrics} {j : Nat} {t : Traffic} (h : Beyond base j t)
    (s : Service) (e : Event) : Beyond base j (t.step s e) := by
  refine ⟨h.rises.trans (rises_event s e), call_event s e h.shows ?_ ?_⟩
  · intro call hfresh
    exact hfresh.shows
  · intro call seconds hshows
    exact hshows.step s seconds h.rises

theorem Beyond.after {base : Metrics} {j : Nat} {t : Traffic} (h : Beyond base j t)
    (s : Service) (events : List Event) : Beyond base j (t.after s events) :=
  events.foldlRecOn (step s) h fun _ ht e _ => ht.event s e

/-- At any time, whatever happened in whatever order, the durations observed are as many as
    the key checks counted and those between their observation and their count; a scrape shows
    no more key checks than durations; and a scrape that has read nothing while another is
    over shows no counter going back from that. -/
theorem scrapes_consistent (s : Service) (events : List Event) :
    let t := (Traffic.initial s).after s events
    t.metrics.keyDurations.count =
        t.metrics.keyRequests.total Outcome.all + t.calls.countP Call.isUncounted ∧
      ((∀ call ∈ t.calls, ¬ call.InFlight) →
        t.metrics.keyDurations.count = t.metrics.keyRequests.total Outcome.all) ∧
      (∀ shown, .answered (.metrics shown) ∈ t.calls →
        shown.keyRequests.total Outcome.all ≤ shown.keyDurations.count) ∧
      ∀ (later : List Event) (i j : Nat) (shown shown' : Metrics),
        t.calls[i]? = some (.answered (.metrics shown)) →
        (∀ call, t.calls[j]? = some call → call = .scrape .zero Sample.all) →
        (t.after s later).calls[j]? = some (.answered (.metrics shown')) →
        shown.Rises shown' := by
  intro t
  have ht : t.Consistent := (consistent_initial s).after s events
  refine ⟨ht.balance, ?_, fun shown hshown => ht.covers _ hshown, ?_⟩
  · intro hidle
    -- Who is in between is in flight.
    have hnone : t.calls.countP Call.isUncounted = 0 := by
      rw [List.countP_eq_zero]
      intro call hcall huncounted
      exact hidle call hcall (Call.inFlight_of_isUncounted huncounted)
    rw [ht.balance, hnone, Nat.add_zero]
  · intro later i j shown shown' hi hj hlater
    -- What the first scrape shows is at most what the metrics are now, and what the other one
    -- shows is at least that.
    have hbeyond : Beyond t.metrics j t := by
      refine ⟨t.metrics.rises_refl, fun call hcall => ?_⟩
      rw [hj call hcall]
      exact Call.Fresh.scrape.shows
    have hbefore := ht.shows _ (List.mem_of_getElem? hi)
    have hafter := (hbeyond.after s later).shows _ hlater
    exact fun sample => (hbefore sample).trans (hafter sample)

/-- A scrape comes between the observation of a key check and its count: it shows a duration
    and no key check.  The next scrape shows both. -/
theorem scrapes_consistent_overlap :
    let s : Service := ⟨.empty, ⟨"static", fun owner => .error (.notFound owner), .ok ()⟩⟩
    let body := "[\"carol#gpu-box-1\",\"\",\"\",\"ssh-ed25519 AAAA\"]"
    let check : Request := ⟨"POST", "/pubkey", ⟨some "application/json", Text.bytes body⟩⟩
    let scrape : Request := ⟨"GET", "/metrics", ⟨none, []⟩⟩
    let events := Event.arrival check :: List.replicate 2 (Event.turn 0 0.5) ++
      Event.arrival scrape :: List.replicate 17 (Event.turn 1 0)
    let later := [Event.turn 0 0] ++ Event.arrival scrape :: List.replicate 17 (Event.turn 2 0)
    let t := (Traffic.initial s).after s events
    t.calls.countP Call.isUncounted = 1 ∧ ∃ shown shown' : Metrics,
      t.calls[1]? = some (.answered (.metrics shown)) ∧
      (t.after s later).calls[2]? = some (.answered (.metrics shown')) ∧
      shown.keyDurations.count = 1 ∧ shown.keyRequests.total Outcome.all = 0 ∧
      shown'.keyDurations.count = 1 ∧ shown'.keyRequests.total Outcome.all = 1 ∧
      shown.Rises shown' := by
  intro s body check scrape events later t
  let q : KeyRequest := ⟨"carol#gpu-box-1", "", "", "ssh-ed25519 AAAA"⟩
  let result := verify s.store q.username q.publicKey
  let m := s.initial.observe 0.5
  let m' := m.countKey (Service.outcome result)
  have hbody : KeyRequest.ofBody check.body = .ok q := ok_of_toOption (by decide +kernel)
  have hstart : Call.start s check = .check (.received q) := by
    rw [Call.start_pubkey s (by decide), Call.ofKeyBody, hbody]
  have hscrape (t : Traffic) := t.after_scrape s (r := scrape) 0 (by decide) (.inl rfl)
  have hobserved : (initial s).after s (.arrival check :: .replicate 2 (.turn 0 0.5)) =
      ⟨m, [.check (.observed result)]⟩ := by
    apply after_arrival s (t := initial s)
    rw [hstart]
    rfl
  have ht : t = ⟨m, [.check (.observed result), .answered (.metrics m)]⟩ := by
    unfold t events
    rw [after_append, hobserved]
    exact hscrape _
  have hlater : t.after s later =
      ⟨m', [.check (.counted result), .answered (.metrics m), .answered (.metrics m')]⟩ := by
    unfold later
    rw [ht, after_append]
    exact hscrape ⟨m', [.check (.counted result), .answered (.metrics m)]⟩
  have hfirst : t.calls[1]? = some (.answered (.metrics m)) := by
    rw [ht]
    rfl
  have hsecond : (t.after s later).calls[2]? = some (.answered (.metrics m')) := by
    rw [hlater]
    rfl
  have hunread : ∀ call, t.calls[2]? = some call → call = .scrape .zero Sample.all := by
    rw [ht]
    exact nofun
  obtain ⟨-, -, -, hrises⟩ := scrapes_consistent s events
  refine ⟨?_, m, m', hfirst, hsecond, rfl, ?_, rfl, ?_, hrises later 1 2 m m' hfirst hunread hsecond⟩
  · rw [ht]
    rfl
  · exact Tally.total_zero _
  · exact (Tally.total_add _ _).trans (congrArg (· + 1) (Tally.total_zero _))

end Traffic

end Gatehouse.Http
