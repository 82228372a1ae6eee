import Gatehouse.Proofs.Metrics.Finite
import Gatehouse.Proofs.Metrics.Readings

/-! # Metrics over a run

    Metrics are the record of the steps taken: each counter shows how often its outcome was
    counted, the gauge what it was set to last, and the histogram the durations in the order in
    which they were observed.  `Records` says this without following the steps one by one; each
    step keeps it (`Records.step`), and so it holds after every run (`records_run`). -/

namespace Gatehouse.Metrics

/-! ## What steps record -/

namespace Step

/-- The outcome of a route request that a step counts. -/
def config? : Step → Option Outcome
  | .countConfig o => some o
  | _              => none

/-- The outcome of a key check that a step counts. -/
def key? : Step → Option Outcome
  | .countKey o => some o
  | _           => none

/-- The number of fingerprints that a step sets. -/
def fingerprints? : Step → Option Int
  | .setFingerprints n => some n
  | _                  => none

/-- The duration that a step observes. -/
def seconds? : Step → Option Float
  | .observe seconds => some seconds
  | _                => none

end Step

/-- How often route requests with an outcome were counted. -/
def configCount (steps : List Step) (o : Outcome) : Nat := (steps.filterMap Step.config?).count o

/-- How often key checks with an outcome were counted. -/
def keyCount (steps : List Step) (o : Outcome) : Nat := (steps.filterMap Step.key?).count o

/-- The number of fingerprints that was set last, at first zero. -/
def lastFingerprints (steps : List Step) : Int :=
  (steps.filterMap Step.fingerprints?).getLast?.getD 0

/-- The durations observed, in their order. -/
def durations (steps : List Step) : List Float := steps.filterMap Step.seconds?

/-- The metrics are those that the steps leave. -/
structure Records (m : Metrics) (steps : List Step) : Prop where
  config       : ∀ o, m.configRequests.count o = configCount steps o
  key          : ∀ o, m.keyRequests.count o = keyCount steps o
  fingerprints : m.fingerprints = lastFingerprints steps
  durations    : m.keyDurations = (durations steps).foldl Histogram.observe Histogram.zero

theorem records_zero : zero.Records [] where
  config o := Tally.count_zero o
  key o := Tally.count_zero o
  fingerprints := rfl
  durations := rfl

section step
variable (steps : List Step) (s : Step)

theorem count_filterMap_concat (f : Step → Option Outcome) (o : Outcome) :
    ((steps ++ [s]).filterMap f).count o =
      (steps.filterMap f).count o + if f s = some o then 1 else 0 := by
  rw [List.filterMap_append, List.count_append, List.filterMap_cons, List.filterMap_nil]
  cases f s with
  | none => rfl
  | some p => by_cases h : p = o <;> simp [h]

theorem configCount_concat (o : Outcome) :
    configCount (steps ++ [s]) o = configCount steps o + if s.config? = some o then 1 else 0 :=
  count_filterMap_concat steps s Step.config? o

theorem keyCount_concat (o : Outcome) :
    keyCount (steps ++ [s]) o = keyCount steps o + if s.key? = some o then 1 else 0 :=
  count_filterMap_concat steps s Step.key? o

theorem lastFingerprints_concat :
    lastFingerprints (steps ++ [s]) = s.fingerprints?.getD (lastFingerprints steps) := by
  unfold lastFingerprints
  rw [List.filterMap_append, List.filterMap_cons, List.filterMap_nil]
  cases s.fingerprints? with
  | none => rw [List.append_nil, Option.getD_none]
  | some n => rw [List.getLast?_concat, Option.getD_some, Option.getD_some]

theorem durations_concat : durations (steps ++ [s]) = durations steps ++ s.seconds?.toList := by
  unfold durations
  rw [List.filterMap_append, List.filterMap_cons, List.filterMap_nil]
  cases s.seconds? <;> rfl

end step

/-- Counting an outcome adds one to its count and to no other. -/
theorem count_add_eq (t : Tally) (o p : Outcome) :
    (t.add o).count p = t.count p + if some o = some p then 1 else 0 := by
  rw [Tally.count_add]
  by_cases h : p = o
  · rw [if_pos h, if_pos (congrArg some h.symm), h]
  · rw [if_neg h, if_neg fun heq => h (Option.some.inj heq).symm, Nat.add_zero]

/-- Each step records itself and nothing else. -/
theorem Records.step {m : Metrics} {steps : List Step} (h : m.Records steps) (s : Step) :
    (m.step s).2.Records (steps ++ [s]) where
  config o := by
    rw [configCount_concat, ← h.config]
    cases s with
    | countConfig p => exact count_add_eq m.configRequests p o
    | _ => rfl
  key o := by
    rw [keyCount_concat, ← h.key]
    cases s with
    | countKey p => exact count_add_eq m.keyRequests p o
    | _ => rfl
  fingerprints := by
    rw [lastFingerprints_concat, ← h.fingerprints]
    cases s <;> rfl
  durations := by
    rw [durations_concat, List.foldl_append, ← h.durations]
    cases s <;> rfl

theorem records_run (steps : List Step) : (zero.run steps).2.Records steps :=
  inTurn_invariant Metrics.step (P := Records) (fun _ _ s h => h.step s) records_zero steps

/-! ## What a record determines -/

/-- The steps record the same: as many of each outcome, the same number last and the same
    durations. -/
structure RecordAlike (steps steps' : List Step) : Prop where
  config       : ∀ o, configCount steps o = configCount steps' o
  key          : ∀ o, keyCount steps o = keyCount steps' o
  fingerprints : lastFingerprints steps = lastFingerprints steps'
  durations    : durations steps = durations steps'

theorem Records.eq_of_recordAlike {m m' : Metrics} {steps steps' : List Step}
    (h : m.Records steps) (h' : m'.Records steps') (halike : RecordAlike steps steps') :
    m = m' := by
  apply ext_read
  intro sample
  cases sample with
  | config o => exact congrArg Reading.count (by rw [h.config, h'.config, halike.config])
  | key o => exact congrArg Reading.count (by rw [h.key, h'.key, halike.key])
  | durations =>
    exact congrArg Reading.histogram (by rw [h.durations, h'.durations, halike.durations])
  | fingerprints =>
    exact congrArg Reading.gauge (by rw [h.fingerprints, h'.fingerprints, halike.fingerprints])

/-- Of finite durations the histogram has each in a bucket. -/
theorem complete_foldl_observe {xs : List Float} (hfinite : ∀ x ∈ xs, x.isFinite = true)
    {h : Histogram} (hcomplete : h.Complete) : (xs.foldl Histogram.observe h).Complete := by
  induction xs generalizing h with
  | nil => exact hcomplete
  | cons x xs ih =>
    obtain ⟨hx, hxs⟩ := List.forall_mem_cons.1 hfinite
    exact ih hxs (hcomplete.observe (Histogram.fits_of_isFinite hx))

theorem count_foldl_observe (xs : List Float) (h : Histogram) :
    (xs.foldl Histogram.observe h).count = h.count + xs.length := by
  induction xs generalizing h with
  | nil => rfl
  | cons x xs ih =>
    rw [List.foldl_cons, ih, List.length_cons]
    show h.count + 1 + xs.length = _
    omega

theorem Records.count_keyDurations {m : Metrics} {steps : List Step} (h : m.Records steps) :
    m.keyDurations.count = (Metrics.durations steps).length := by
  rw [h.durations, count_foldl_observe]
  exact Nat.zero_add _

end Gatehouse.Metrics
