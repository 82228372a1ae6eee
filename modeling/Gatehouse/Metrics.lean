/-! # Metrics

    The program counts its webhook answers by outcome, measures how long key checks take and
    shows how many backend fingerprints it hands out.

    A `Tally` counts each outcome on its own: `count_add` is its whole theory.  A
    `Histogram` puts a duration into the first bucket whose bound it does not exceed.

    Core Lean 4 only. -/

namespace Gatehouse

/-- How a webhook call ended. -/
inductive Outcome where
  | resolved
  | accepted
  | rejected
  | malformedIdentity
  | userNotFound
  | keyParseError
  | storeError
  deriving DecidableEq, Repr

namespace Outcome

/-- All outcomes. -/
def all : List Outcome :=
  [.resolved, .accepted, .rejected, .malformedIdentity, .userNotFound, .keyParseError, .storeError]

theorem mem_all (o : Outcome) : o ∈ all := by cases o <;> decide

/-- The outcome as the label of a sample. -/
def label : Outcome → String
  | .resolved          => "Resolved"
  | .accepted          => "Accepted"
  | .rejected          => "Rejected"
  | .malformedIdentity => "MalformedIdentity"
  | .userNotFound      => "UserNotFound"
  | .keyParseError     => "KeyParseError"
  | .storeError        => "StoreError"

/-- The outcome with a label. -/
def ofLabel? (label : String) : Option Outcome := all.find? (·.label = label)

def index : Outcome → Fin 7
  | .resolved          => 0
  | .accepted          => 1
  | .rejected          => 2
  | .malformedIdentity => 3
  | .userNotFound      => 4
  | .keyParseError     => 5
  | .storeError        => 6

theorem index_inj {o p : Outcome} (h : o.index = p.index) : o = p := by
  cases o <;> cases p <;> simp_all [index]

end Outcome

/-! ## Tallies -/

/-- A count for each outcome. -/
structure Tally where
  counts : Vector Nat 7
  deriving DecidableEq, Repr

namespace Tally

/-- The tally before anything was counted. -/
def zero : Tally := ⟨.replicate 7 0⟩

def count (t : Tally) (o : Outcome) : Nat := t.counts[o.index]

/-- Counts an outcome once more. -/
def add (t : Tally) (o : Outcome) : Tally := ⟨t.counts.set o.index (t.count o + 1)⟩

/-- Sets the count of an outcome. -/
def put (t : Tally) (o : Outcome) (n : Nat) : Tally := ⟨t.counts.set o.index n⟩

@[simp] theorem count_zero (o : Outcome) : zero.count o = 0 := by simp [zero, count]

theorem count_put (t : Tally) (o p : Outcome) (n : Nat) :
    (t.put o n).count p = if p = o then n else t.count p := by
  by_cases h : p = o
  · subst h
    simp [put, count]
  · have : o.index.val ≠ p.index.val := fun e => h (Outcome.index_inj (Fin.ext e.symm))
    simp [put, count, h, this]

theorem count_add (t : Tally) (o p : Outcome) :
    (t.add o).count p = if p = o then t.count o + 1 else t.count p :=
  count_put t o p (t.count o + 1)

end Tally

/-! ## Histograms -/

/-- The bounds of the buckets: half a millisecond, doubled thirteen times, and last the
    greatest float, beyond which nothing finite lies. -/
def durationBounds : List Float :=
  (List.range 14).map (fun i => 0.0005 * Float.ofNat (Nat.pow 2 i))
    ++ [Float.ofBits 0x7fefffffffffffff]

/-- Durations, in seconds. -/
structure Histogram where
  count   : Nat
  sum     : Float
  /-- The durations in each bucket, aligned with the bounds. -/
  buckets : List Nat

namespace Histogram

/-- The histogram before anything was observed. -/
def zero : Histogram := ⟨0, 0.0, durationBounds.map fun _ => 0⟩

/-- Counts a value in the first bucket whose bound it does not exceed. -/
def bump (x : Float) : List Float → List Nat → List Nat
  | bound :: bounds, n :: ns => if x ≤ bound then (n + 1) :: ns else n :: bump x bounds ns
  | _, ns                    => ns

/-- Observes a duration. -/
def observe (h : Histogram) (x : Float) : Histogram :=
  ⟨h.count + 1, h.sum + x, bump x durationBounds h.buckets⟩

/-- The observations in a bucket or one before it, for each bucket. -/
def cumulative (before : Nat) : List Nat → List Nat
  | []      => []
  | n :: ns => (before + n) :: cumulative (before + n) ns

end Histogram

/-! ## All metrics -/

structure Metrics where
  /-- Answers to route requests. -/
  configRequests : Tally
  /-- Answers to key checks. -/
  keyRequests    : Tally
  keyDurations   : Histogram
  /-- The number of backend fingerprints handed out. -/
  fingerprints   : Int

namespace Metrics

/-- The metrics before anything happened. -/
def zero : Metrics := ⟨.zero, .zero, .zero, 0⟩

def countConfig (m : Metrics) (o : Outcome) : Metrics :=
  { m with configRequests := m.configRequests.add o }

def countKey (m : Metrics) (o : Outcome) : Metrics :=
  { m with keyRequests := m.keyRequests.add o }

def observe (m : Metrics) (seconds : Float) : Metrics :=
  { m with keyDurations := m.keyDurations.observe seconds }

def setFingerprints (m : Metrics) (n : Int) : Metrics := { m with fingerprints := n }

end Metrics

end Gatehouse
