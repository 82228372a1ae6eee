import Gatehouse.Metrics

/-! # Samples, one at a time

    Metrics change while they are read.  Whoever hands them out copies them sample by sample,
    in the order of the exposition, and what is shown in the end may never have been the
    metrics at any one moment.  A family that is read in one go is one that nothing happens to
    between its samples.

    Core Lean 4 only. -/

namespace Gatehouse.Metrics

/-- What is read at once. -/
inductive Sample where
  /-- The number of route requests with an outcome. -/
  | config (o : Outcome)
  /-- The number of key checks with an outcome. -/
  | key (o : Outcome)
  /-- The whole histogram. -/
  | durations
  | fingerprints
  deriving DecidableEq, Repr

namespace Sample

/-- All samples, family by family. -/
def all : List Sample :=
  Outcome.all.map .config ++ Outcome.all.map .key ++ [.durations, .fingerprints]

theorem mem_all (sample : Sample) : sample ∈ all := by
  cases sample with
  | config o => cases o <;> decide
  | key o => cases o <;> decide
  | durations => decide
  | fingerprints => decide

/-- Copies a sample from the metrics to what is shown of them. -/
def copy (m shown : Metrics) : Sample → Metrics
  | .config o     =>
    { shown with configRequests := shown.configRequests.put o (m.configRequests.count o) }
  | .key o        => { shown with keyRequests := shown.keyRequests.put o (m.keyRequests.count o) }
  | .durations    => { shown with keyDurations := m.keyDurations }
  | .fingerprints => { shown with fingerprints := m.fingerprints }

end Sample

end Gatehouse.Metrics
