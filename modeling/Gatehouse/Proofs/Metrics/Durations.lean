import Gatehouse.Metrics.Exposition
import Mathlib.Algebra.Ring.Nat
import Mathlib.Data.List.Forall2

/-! # What durations change

    How long a key check takes is not for the program to decide, so two runs that are alike
    in everything else may still show different durations.  In the exposition this touches
    the sum and the buckets of one histogram and nothing else (`Alike.sameApart`).

    If moreover every duration has a bucket, the last bucket holds all of them, and its
    sample too is the same in both runs (`Alike.sameApart_of_complete`). -/

namespace Gatehouse

/-! ## Buckets -/

namespace Histogram

/-- Some bucket takes the duration: it is not beyond the greatest float. -/
def Fits (x : Float) : Prop := ∃ bound ∈ durationBounds, x ≤ bound

instance (x : Float) : Decidable (Fits x) :=
  inferInstanceAs (Decidable (∃ bound ∈ durationBounds, x ≤ bound))

@[simp] theorem length_bump (x : Float) (bounds : List Float) (ns : List Nat) :
    (bump x bounds ns).length = ns.length := by
  fun_induction bump x bounds ns with
  | case1 => rfl
  | case2 _ _ _ _ _ ih => simp [ih]
  | case3 => rfl

/-- A value that is not beyond every bound is counted once. -/
theorem sum_bump {x : Float} {bounds : List Float} {ns : List Nat}
    (hlength : ns.length = bounds.length) (h : ∃ bound ∈ bounds, x ≤ bound) :
    (bump x bounds ns).sum = ns.sum + 1 := by
  induction bounds generalizing ns with
  | nil => simp at h
  | cons bound bounds ih =>
    cases ns with
    | nil => simp at hlength
    | cons n ns =>
      by_cases hx : x ≤ bound
      · rw [bump, if_pos hx, List.sum_cons, List.sum_cons]
        omega
      · have hlater : ∃ later ∈ bounds, x ≤ later := by
          obtain ⟨later, hmem, hle⟩ := h
          rcases List.mem_cons.1 hmem with rfl | hmem
          · exact absurd hle hx
          · exact ⟨later, hmem, hle⟩
        rw [bump, if_neg hx, List.sum_cons, List.sum_cons, ih (Nat.succ.inj hlength) hlater]
        omega

@[simp] theorem length_cumulative (before : Nat) (ns : List Nat) :
    (cumulative before ns).length = ns.length := by
  induction ns generalizing before with
  | nil => rfl
  | cons n ns ih => simp [cumulative, ih]

/-- The samples of buckets are sums of their contents. -/
theorem getElem?_cumulative (before : Nat) {ns : List Nat} {i : Nat} (h : i < ns.length) :
    (cumulative before ns)[i]? = some (before + (ns.take (i + 1)).sum) := by
  induction ns generalizing before i with
  | nil => cases h
  | cons n ns ih =>
    cases i with
    | zero => simp [cumulative]
    | succ i =>
      rw [cumulative, List.getElem?_cons_succ, ih _ (Nat.lt_of_succ_lt_succ h),
        List.take_succ_cons, List.sum_cons, Nat.add_assoc]

/-- As many observations in as many buckets, but maybe others. -/
structure Alike (h h' : Histogram) : Prop where
  count   : h.count = h'.count
  buckets : h.buckets.length = h'.buckets.length

theorem Alike.observe {h h' : Histogram} (halike : h.Alike h') (x x' : Float) :
    (h.observe x).Alike (h'.observe x') where
  count := congrArg (· + 1) halike.count
  buckets := by
    unfold Histogram.observe
    rw [length_bump, length_bump, halike.buckets]

/-- Every observation is in some bucket. -/
structure Complete (h : Histogram) : Prop where
  buckets : h.buckets.length = durationBounds.length
  sum     : h.buckets.sum = h.count

theorem complete_zero : zero.Complete where
  buckets := by simp [zero]
  sum := by simp [zero]

theorem Complete.observe {h : Histogram} (hcomplete : h.Complete) {x : Float} (hx : Fits x) :
    (h.observe x).Complete where
  buckets := by
    unfold Histogram.observe
    rw [length_bump, hcomplete.buckets]
  sum := by
    unfold Histogram.observe
    rw [sum_bump hcomplete.buckets hx, hcomplete.sum]

/-- In the last bucket or one before it is every observation. -/
theorem Complete.getElem?_cumulative {h : Histogram} (hcomplete : h.Complete) {i : Nat}
    (hi : i + 1 = durationBounds.length) : (cumulative 0 h.buckets)[i]? = some h.count := by
  have hlength := hcomplete.buckets
  rw [Histogram.getElem?_cumulative 0 (by omega), List.take_of_length_le (by omega), Nat.zero_add,
    hcomplete.sum]

end Histogram

/-! ## Lines -/

namespace Exposition

/-- The lines are the same, or samples of one of the names. -/
inductive SameApart (names : List String) : String → String → Prop where
  | same (line : String) : SameApart names line line
  | sample {name : String} (value value' : String) :
      name ∈ names → SameApart names (sample name value) (sample name value')

theorem sameApart_refl (names lines : List String) : List.Forall₂ (SameApart names) lines lines :=
  List.forall₂_same.2 fun line _ => .same line

/-- The names of the samples of buckets, of which the last has no bound. -/
def bucketNames (name : String) : List Float → List String
  | bound :: bounds =>
    labelled (name ++ "_bucket") "le" (boundLabel bounds.isEmpty bound) :: bucketNames name bounds
  | []              => []

@[simp] theorem length_bucketNames (name : String) (bounds : List Float) :
    (bucketNames name bounds).length = bounds.length := by
  induction bounds with
  | nil => rfl
  | cons bound bounds ih => simp [bucketNames, ih]

/-- Buckets whose samples are not among the named have the same numbers. -/
def BucketsAgree (names : List String) (name : String) (bounds : List Float) (ns ns' : List Nat) :
    Prop :=
  ∀ (i : Nat) (bucket : String), (bucketNames name bounds)[i]? = some bucket →
    bucket ∈ names ∨ ns[i]? = ns'[i]?

section histogram
variable {names : List String} {name : String}

theorem sameApart_buckets {bounds : List Float} {ns ns' : List Nat}
    (hlength : ns.length = ns'.length) (h : BucketsAgree names name bounds ns ns') :
    List.Forall₂ (SameApart names) (buckets name bounds ns) (buckets name bounds ns') := by
  induction bounds generalizing ns ns' with
  | nil => exact .nil
  | cons bound bounds ih =>
    cases ns with
    | nil =>
      obtain rfl := List.length_eq_zero_iff.1 hlength.symm
      exact .nil
    | cons n ns =>
      cases ns' with
      | nil => cases hlength
      | cons n' ns' =>
        refine .cons ?_ (ih (Nat.succ.inj hlength) fun i bucket => h (i + 1) bucket)
        rcases h 0 _ rfl with hmem | hsame
        · exact .sample _ _ hmem
        · obtain rfl := Option.some.inj hsame
          exact .same _

theorem sameApart_histogram {h h' : Histogram} (halike : h.Alike h') (help : String)
    (hsum : name ++ "_sum" ∈ names)
    (hbuckets : BucketsAgree names name durationBounds (Histogram.cumulative 0 h.buckets)
      (Histogram.cumulative 0 h'.buckets)) :
    List.Forall₂ (SameApart names) (histogram name help h) (histogram name help h') := by
  have hlength : (Histogram.cumulative 0 h.buckets).length =
      (Histogram.cumulative 0 h'.buckets).length := by simp [halike.buckets]
  unfold histogram
  rw [halike.count]
  refine List.rel_append (List.rel_append (sameApart_refl _ _) ?_) (sameApart_buckets hlength hbuckets)
  exact .cons (.sample _ _ hsum) (sameApart_refl _ _)

end histogram

end Exposition

/-! ## Expositions -/

namespace Metrics

open Exposition

/-- The names of all samples that tell how long key checks took. -/
def durationNames : List String :=
  ("sshgate_pubkey_duration_seconds" ++ "_sum")
    :: bucketNames "sshgate_pubkey_duration_seconds" durationBounds

/-- The expositions are the same, line by line, apart from the samples named. -/
def SameApart (names : List String) (m m' : Metrics) : Prop :=
  List.Forall₂ (Exposition.SameApart names) m.lines m'.lines

/-- The metrics are the same but for the durations. -/
structure Alike (m m' : Metrics) : Prop where
  configRequests : m.configRequests = m'.configRequests
  keyRequests    : m.keyRequests = m'.keyRequests
  keyDurations   : m.keyDurations.Alike m'.keyDurations
  fingerprints   : m.fingerprints = m'.fingerprints

theorem alike_refl (m : Metrics) : m.Alike m := ⟨rfl, rfl, ⟨rfl, rfl⟩, rfl⟩

section alike
variable {m m' : Metrics}

theorem Alike.countConfig (h : m.Alike m') (o : Outcome) :
    (m.countConfig o).Alike (m'.countConfig o) :=
  ⟨congrArg (·.add o) h.configRequests, h.keyRequests, h.keyDurations, h.fingerprints⟩

theorem Alike.countKey (h : m.Alike m') (o : Outcome) : (m.countKey o).Alike (m'.countKey o) :=
  ⟨h.configRequests, congrArg (·.add o) h.keyRequests, h.keyDurations, h.fingerprints⟩

theorem Alike.observe (h : m.Alike m') (seconds seconds' : Float) :
    (m.observe seconds).Alike (m'.observe seconds') :=
  ⟨h.configRequests, h.keyRequests, h.keyDurations.observe seconds seconds', h.fingerprints⟩

/-- The exposition is the same around the histogram, and in it wherever its samples are. -/
theorem Alike.sameApart_of_buckets (h : m.Alike m') {names : List String}
    (hsum : "sshgate_pubkey_duration_seconds" ++ "_sum" ∈ names)
    (hbuckets : BucketsAgree names "sshgate_pubkey_duration_seconds" durationBounds
      (Histogram.cumulative 0 m.keyDurations.buckets)
      (Histogram.cumulative 0 m'.keyDurations.buckets)) :
    m.SameApart names m' := by
  unfold SameApart lines linesIn
  rw [h.configRequests, h.keyRequests, h.fingerprints]
  refine List.rel_append (List.rel_append (List.rel_append (sameApart_refl _ _) ?_)
    (sameApart_refl _ _)) (sameApart_refl _ _)
  exact sameApart_histogram h.keyDurations _ hsum hbuckets

/-- Durations show in the samples of their histogram only, and not in their number. -/
theorem Alike.sameApart (h : m.Alike m') : m.SameApart durationNames m' := by
  refine h.sameApart_of_buckets List.mem_cons_self ?_
  intro i bucket hbucket
  exact .inl (List.mem_cons_of_mem _ (List.mem_of_getElem? hbucket))

/-- With a bucket for every duration, the last bucket does not show them either. -/
theorem Alike.sameApart_of_complete (h : m.Alike m') (hcomplete : m.keyDurations.Complete)
    (hcomplete' : m'.keyDurations.Complete) : m.SameApart durationNames.dropLast m' := by
  have hnames : durationNames.dropLast = ("sshgate_pubkey_duration_seconds" ++ "_sum")
      :: (bucketNames "sshgate_pubkey_duration_seconds" durationBounds).dropLast := by
    unfold durationNames
    rw [List.dropLast_cons_of_ne_nil]
    exact List.cons_ne_nil _ _
  rw [hnames]
  refine h.sameApart_of_buckets List.mem_cons_self ?_
  intro i bucket hbucket
  obtain ⟨hi, -⟩ := List.getElem?_eq_some_iff.1 hbucket
  rw [length_bucketNames] at hi
  by_cases hlast : i + 1 = durationBounds.length
  · right
    rw [hcomplete.getElem?_cumulative hlast, hcomplete'.getElem?_cumulative hlast,
      h.keyDurations.count]
  · left
    refine List.mem_cons_of_mem _ (List.mem_of_getElem? (i := i) ?_)
    rw [List.getElem?_dropLast, if_pos, hbucket]
    rw [length_bucketNames]
    omega

end alike

end Metrics

end Gatehouse
