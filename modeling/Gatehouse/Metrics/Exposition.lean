import Gatehouse.Decimal.Layout
import Gatehouse.Metrics

/-! # The exposition of metrics

    Metrics are handed out as lines of text: for each family its help and its type, and then
    its samples.  A counter has a sample for every outcome that was counted at all; the
    samples of the histogram's buckets count everything up to their bound.

    The outcomes of a counter have no order of their own, and every exposition may show them in
    another one.  `Metrics.exposition` shows them in the order in which they are declared. -/

namespace Gatehouse

/-- The orders in which the outcomes of the two counters are shown. -/
structure SampleOrder where
  config      : List Outcome
  key         : List Outcome
  config_perm : config.Perm Outcome.all
  key_perm    : key.Perm Outcome.all

/-- The order of declaration. -/
def SampleOrder.declared : SampleOrder := ⟨Outcome.all, Outcome.all, .refl _, .refl _⟩

namespace Exposition

/-- The two lines that open a family. -/
def head (name kind help : String) : List String :=
  ["# HELP " ++ name ++ " " ++ help ++ ".", "# TYPE " ++ name ++ " " ++ kind]

/-- A sample: its name with its labels, and its value. -/
def sample (name value : String) : String := name ++ " " ++ value

/-- A name with one label. -/
def labelled (name label value : String) : String :=
  name ++ "\x7b" ++ label ++ "=\"" ++ value ++ "\"\x7d"

/-- The family of a tally, with its outcomes in the given order. -/
def tallyIn (order : List Outcome) (name help : String) (t : Tally) : List String :=
  head name "counter" help
    ++ (order.filter fun o => t.count o ≠ 0).map fun o =>
        sample (labelled (name ++ "_total") "outcome" o.label) (toString (t.count o))

/-- The bound of a bucket as its label shows it. -/
def boundLabel (last : Bool) (bound : Float) : String :=
  if last then "+Inf" else Decimal.Layout.metric.float bound

/-- The samples of buckets, of which the last has no bound. -/
def buckets (name : String) : List Float → List Nat → List String
  | bound :: bounds, n :: ns =>
    sample (labelled (name ++ "_bucket") "le" (boundLabel bounds.isEmpty bound)) (toString n)
      :: buckets name bounds ns
  | _, _                     => []

/-- The family of a histogram. -/
def histogram (name help : String) (h : Histogram) : List String :=
  head name "histogram" help
    ++ [sample (name ++ "_sum") (Decimal.Layout.metric.float h.sum),
        sample (name ++ "_count") (toString h.count)]
    ++ buckets name durationBounds (Histogram.cumulative 0 h.buckets)

/-- The family of a single number. -/
def gauge (name help : String) (n : Int) : List String :=
  head name "gauge" help ++ [sample name (toString n)]

/-- The last line. -/
def last : String := "# EOF"

end Exposition

namespace Metrics

open Exposition

/-- The lines of the exposition, with the outcomes in the given order. -/
def linesIn (m : Metrics) (order : SampleOrder) : List String :=
  tallyIn order.config "sshgate_config_requests" "Route resolution webhook calls by outcome"
      m.configRequests
    ++ tallyIn order.key "sshgate_pubkey_requests" "Public-key webhook calls by outcome"
        m.keyRequests
    ++ histogram "sshgate_pubkey_duration_seconds"
        "Public-key verification latency including the user lookup" m.keyDurations
    ++ gauge "sshgate_trusted_fingerprints"
        "Number of backend host-key fingerprints handed to the gateway" m.fingerprints
    ++ [last]

/-- The exposition with the outcomes in the given order: every line ends with a line feed. -/
def expositionIn (m : Metrics) (order : SampleOrder) : String :=
  String.join ((m.linesIn order).map (· ++ "\n"))

/-- The lines in the order of declaration. -/
def lines (m : Metrics) : List String := m.linesIn .declared

/-- The exposition in the order of declaration. -/
def exposition (m : Metrics) : String := m.expositionIn .declared

/-- The media type of the exposition. -/
def mediaType : String := "application/openmetrics-text; version=1.0.0; charset=utf-8"

end Metrics

end Gatehouse
