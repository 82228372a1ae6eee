import Gatehouse.InTurn
import Gatehouse.Metrics.Exposition

/-! # Steps of the metrics

    Metrics are counted up, set, fed with durations and exposed, one step after another, and
    each step is answered with what it found or made. -/

namespace Gatehouse

namespace Metrics

/-- What is done with metrics. -/
inductive Step where
  | countConfig (o : Outcome)
  | countKey (o : Outcome)
  | setFingerprints (n : Int)
  | observe (seconds : Float)
  | expose (order : SampleOrder)

/-- What a step is answered. -/
inductive Answer where
  /-- The count that it made. -/
  | counted (n : Nat)
  /-- The number that it replaced. -/
  | replaced (n : Int)
  | observed
  | exposed (text : String)

/-- The answer to a step, and the metrics after it. -/
def step (m : Metrics) : Step → Answer × Metrics
  | .countConfig o     =>
    let m := m.countConfig o
    (.counted (m.configRequests.count o), m)
  | .countKey o        =>
    let m := m.countKey o
    (.counted (m.keyRequests.count o), m)
  | .setFingerprints n => (.replaced m.fingerprints, m.setFingerprints n)
  | .observe seconds   => (.observed, m.observe seconds)
  | .expose order      => (.exposed (m.expositionIn order), m)

/-- The answers to steps, one after another, and the metrics after them. -/
def run (m : Metrics) (steps : List Step) : List Answer × Metrics := inTurn step m steps

end Metrics

end Gatehouse
