import Gatehouse.Metrics.Sample
import Gatehouse.Proofs.Metrics.Durations
import Gatehouse.Proofs.Metrics.Samples

/-! # Readings

    A sample is read as a number or as a whole histogram, and metrics are nothing but the
    readings of their samples (`ext_read`).  To copy a sample is to change its reading and no
    other (`read_copy`), so whoever copies all of them at one moment has the metrics of that
    moment (`foldl_copy`).

    What is counted is never taken back: the readings of counters and of the histogram rise
    with everything that is counted or observed (`Rises`). -/

namespace Gatehouse

/-! ## Histograms grow -/

namespace Histogram

theorem forall₂_le_trans {ns ns' ns'' : List Nat} (h : List.Forall₂ (· ≤ ·) ns ns')
    (h' : List.Forall₂ (· ≤ ·) ns' ns'') : List.Forall₂ (· ≤ ·) ns ns'' := by
  induction h generalizing ns'' with
  | nil => exact h'
  | cons hle _ ih =>
    cases h' with
    | cons hle' htail => exact .cons (Nat.le_trans hle hle') (ih htail)

theorem forall₂_le_bump (x : Float) (bounds : List Float) (ns : List Nat) :
    List.Forall₂ (· ≤ ·) ns (bump x bounds ns) := by
  fun_induction bump x bounds ns with
  | case1 bound bounds n ns hle =>
    exact .cons (Nat.le_succ n) (List.forall₂_same.2 fun _ _ => Nat.le_refl _)
  | case2 bound bounds n ns hle ih => exact .cons (Nat.le_refl n) ih
  | case3 => exact List.forall₂_same.2 fun _ _ => Nat.le_refl _

/-- What holds of the buckets holds of their samples, which count everything below as well. -/
theorem forall₂_le_cumulative {ns ns' : List Nat} (h : List.Forall₂ (· ≤ ·) ns ns')
    {before before' : Nat} (hbefore : before ≤ before') :
    List.Forall₂ (· ≤ ·) (cumulative before ns) (cumulative before' ns') := by
  induction h generalizing before before' with
  | nil => exact .nil
  | cons hle _ ih =>
    have hsum := Nat.add_le_add hbefore hle
    exact .cons hsum (ih hsum)

/-- No sample of the histogram is greater than that of the other. -/
structure AtMost (h h' : Histogram) : Prop where
  count   : h.count ≤ h'.count
  buckets : List.Forall₂ (· ≤ ·) (cumulative 0 h.buckets) (cumulative 0 h'.buckets)

theorem atMost_refl (h : Histogram) : h.AtMost h :=
  ⟨Nat.le_refl _, List.forall₂_same.2 fun _ _ => Nat.le_refl _⟩

theorem AtMost.trans {h h' h'' : Histogram} (hle : h.AtMost h') (hle' : h'.AtMost h'') :
    h.AtMost h'' :=
  ⟨Nat.le_trans hle.count hle'.count, forall₂_le_trans hle.buckets hle'.buckets⟩

theorem atMost_observe (h : Histogram) (x : Float) : h.AtMost (h.observe x) where
  count := Nat.le_succ _
  buckets := forall₂_le_cumulative (forall₂_le_bump x durationBounds h.buckets) (Nat.le_refl 0)

end Histogram

namespace Metrics

/-! ## What is read -/

/-- What is read in a sample. -/
inductive Reading where
  | count (n : Nat)
  | histogram (h : Histogram)
  | gauge (n : Int)

/-- The first reading is not greater than the second; a gauge goes up and down. -/
inductive Reading.AtMost : Reading → Reading → Prop where
  | count {n n' : Nat} : n ≤ n' → AtMost (.count n) (.count n')
  | histogram {h h' : Histogram} : h.AtMost h' → AtMost (.histogram h) (.histogram h')
  | gauge (n n' : Int) : AtMost (.gauge n) (.gauge n')

theorem Reading.atMost_refl (v : Reading) : v.AtMost v := by
  cases v with
  | count n => exact .count (Nat.le_refl n)
  | histogram h => exact .histogram h.atMost_refl
  | gauge n => exact .gauge n n

theorem Reading.AtMost.trans {u v w : Reading} (h : u.AtMost v) (h' : v.AtMost w) :
    u.AtMost w := by
  cases h with
  | count hle =>
    cases h' with
    | count hle' => exact .count (Nat.le_trans hle hle')
  | histogram hle =>
    cases h' with
    | histogram hle' => exact .histogram (hle.trans hle')
  | gauge =>
    cases h' with
    | gauge => exact .gauge _ _

namespace Sample

def read (m : Metrics) : Sample → Reading
  | .config o     => .count (m.configRequests.count o)
  | .key o        => .count (m.keyRequests.count o)
  | .durations    => .histogram m.keyDurations
  | .fingerprints => .gauge m.fingerprints

/-- A sample that is copied is read as it was; all others are left alone. -/
theorem read_copy (m shown : Metrics) (sample other : Sample) :
    other.read (sample.copy m shown) = if other = sample then other.read m else other.read shown := by
  cases sample with
  | config o =>
    cases other with
    | config p =>
      show Reading.count ((shown.configRequests.put o _).count p) = _
      rw [Tally.count_put]
      by_cases h : p = o
      · simp [read, h]
      · simp [read, h]
    | _ => rfl
  | key o =>
    cases other with
    | key p =>
      show Reading.count ((shown.keyRequests.put o _).count p) = _
      rw [Tally.count_put]
      by_cases h : p = o
      · simp [read, h]
      · simp [read, h]
    | _ => rfl
  | durations => cases other <;> rfl
  | fingerprints => cases other <;> rfl

end Sample

/-- Metrics are nothing but their readings. -/
theorem ext_read {m m' : Metrics} (h : ∀ sample : Sample, sample.read m = sample.read m') :
    m = m' := by
  have hconfig : m.configRequests = m'.configRequests :=
    Tally.ext_count fun o => Reading.count.inj (h (.config o))
  have hkey : m.keyRequests = m'.keyRequests :=
    Tally.ext_count fun o => Reading.count.inj (h (.key o))
  have hdurations : m.keyDurations = m'.keyDurations := Reading.histogram.inj (h .durations)
  have hfingerprints : m.fingerprints = m'.fingerprints := Reading.gauge.inj (h .fingerprints)
  cases m
  cases m'
  simp_all

theorem read_foldl_copy (m shown : Metrics) (samples : List Sample) (other : Sample) :
    other.read (samples.foldl (fun shown sample => sample.copy m shown) shown) =
      if other ∈ samples then other.read m else other.read shown := by
  induction samples generalizing shown with
  | nil => simp
  | cons sample samples ih =>
    rw [List.foldl_cons, ih, Sample.read_copy]
    by_cases hmem : other ∈ samples
    · simp [hmem]
    · simp [hmem]

/-- Whoever copies all samples of the same metrics has these metrics. -/
theorem foldl_copy (m shown : Metrics) :
    Sample.all.foldl (fun shown sample => sample.copy m shown) shown = m := by
  apply ext_read
  intro sample
  rw [read_foldl_copy, if_pos sample.mem_all]

/-! ## Metrics grow -/

/-- No counter has a greater reading in the first metrics than in the second, and neither has
    the histogram. -/
def Rises (m m' : Metrics) : Prop := ∀ sample : Sample, (sample.read m).AtMost (sample.read m')

theorem rises_refl (m : Metrics) : m.Rises m := fun _ => Reading.atMost_refl _

theorem Rises.trans {m m' m'' : Metrics} (h : m.Rises m') (h' : m'.Rises m'') : m.Rises m'' :=
  fun sample => (h sample).trans (h' sample)

end Metrics

/-- Counting an outcome lowers no count. -/
theorem Tally.count_le_add (t : Tally) (o p : Outcome) : t.count p ≤ (t.add o).count p := by
  rw [count_add]
  split
  · rename_i h
    rw [h]
    exact Nat.le_succ _
  · exact Nat.le_refl _

/-- Higher counts have a higher sum. -/
theorem Tally.total_le_total {t t' : Tally} (h : ∀ o, t.count o ≤ t'.count o)
    (os : List Outcome) : t.total os ≤ t'.total os := by
  induction os with
  | nil => exact Nat.le_refl 0
  | cons o os ih => exact Nat.add_le_add (h o) ih

namespace Metrics

/-- At least as many durations were observed as key checks were counted. -/
def Covered (m : Metrics) : Prop := m.keyRequests.total Outcome.all ≤ m.keyDurations.count

theorem rises_countConfig (m : Metrics) (o : Outcome) : m.Rises (m.countConfig o) := by
  intro sample
  cases sample with
  | config p => exact .count (m.configRequests.count_le_add o p)
  | _ => exact Reading.atMost_refl _

theorem rises_countKey (m : Metrics) (o : Outcome) : m.Rises (m.countKey o) := by
  intro sample
  cases sample with
  | key p => exact .count (m.keyRequests.count_le_add o p)
  | _ => exact Reading.atMost_refl _

theorem rises_observe (m : Metrics) (seconds : Float) : m.Rises (m.observe seconds) := by
  intro sample
  cases sample with
  | durations => exact .histogram (m.keyDurations.atMost_observe seconds)
  | _ => exact Reading.atMost_refl _

end Metrics

end Gatehouse
