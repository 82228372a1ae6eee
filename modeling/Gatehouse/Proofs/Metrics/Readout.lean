import Gatehouse.Proofs.Metrics.Lines
import Gatehouse.Proofs.Metrics.Steps
import Mathlib.Data.List.Nodup

/-! # Reading an exposition

    A line of an exposition that starts with the name of a sample and a space is the sample's,
    with the value behind (`valueOf?_eq`).

    The name is enough because no other line starts so: the outcomes of a counter and the bounds
    of buckets differ in their labels, and the last bucket's label is one that no float has. -/

namespace Gatehouse

namespace Exposition

/-! ## Values -/

/-- The value of the first sample of a name, with its labels if it has some. -/
def valueOf? (name text : String) : Option String :=
  (linesWith (name ++ " ") (linesOf text)).head?.map fun line =>
    String.ofList (line.toList.drop (name ++ " ").toList.length)

/-- Where there is one sample, its value is what was written. -/
theorem valueOf?_eq {name value text : String}
    (h : linesWith (name ++ " ") (linesOf text) = [sample name value]) :
    valueOf? name text = some value := by
  have hline : (sample name value).toList = (name ++ " ").toList ++ value.toList :=
    String.toList_append
  unfold valueOf?
  rw [h, List.head?_cons, Option.map_some, hline, List.drop_left, String.ofList_toList]

/-- A value is told from others of the same label by where it ends. -/
theorem starts_labelled_iff (name label v v' value : String) :
    Starts (labelled name label v ++ " ") (sample (labelled name label v') value) ↔
      Starts (v ++ "\"\x7d ") (v' ++ "\"\x7d " ++ value) := by
  simp only [Starts, sample, labelled, String.toList_append, List.append_assoc,
    List.prefix_append_right_inj]
  rfl

theorem starts_outcomeSample_iff (name : String) (t : Tally) (o p : Outcome) :
    Starts (labelled (name ++ "_total") "outcome" o.label ++ " ") (outcomeSample name t p) ↔
      p = o := by
  have hapart : ∀ o ∈ Outcome.all, ∀ p ∈ Outcome.all, p ≠ o →
      Apart (o.label ++ "\"\x7d ") (p.label ++ "\"\x7d ") := by decide
  unfold outcomeSample
  rw [starts_labelled_iff]
  constructor
  · intro h
    by_contra hne
    exact (hapart o o.mem_all p p.mem_all hne).not_starts (starts_append _ _) h
  · rintro rfl
    exact starts_append _ _

/-- Lines with a longer mark are looked for among those with a shorter one. -/
theorem linesWith_linesWith {mark longer : String} (h : Starts mark longer) (lines : List String) :
    linesWith longer (linesWith mark lines) = linesWith longer lines := by
  unfold linesWith
  rw [List.filter_filter]
  apply List.filter_congr
  intro line _
  have himp : Starts longer line → Starts mark line := fun hline => List.IsPrefix.trans h hline
  by_cases hline : Starts longer line
  · simp [hline, himp hline]
  · simp [hline]

/-- In every order of the outcomes each stands once. -/
theorem filter_eq_outcome {order : List Outcome} (horder : order.Perm Outcome.all) (o : Outcome) :
    order.filter (fun p => decide (p = o)) = [o] := by
  have hnodup : order.Nodup := horder.nodup_iff.2 (by decide)
  rw [List.filter_eq, List.count_eq_one_of_mem hnodup (horder.mem_iff.2 o.mem_all)]
  rfl

/-- Of the samples of a counter one is the outcome's if it was counted, and else none. -/
theorem linesWith_outcome {name : String} {lines : List String} {t : Tally} {order : List Outcome}
    (horder : order.Perm Outcome.all)
    (h : samplesIn name lines = (order.filter fun o => t.count o ≠ 0).map (outcomeSample name t))
    (o : Outcome) :
    linesWith (labelled (name ++ "_total") "outcome" o.label ++ " ") lines =
      if t.count o = 0 then [] else [outcomeSample name t o] := by
  have hmark : Starts (counterMark name) (labelled (name ++ "_total") "outcome" o.label ++ " ") := by
    have hname : Starts (counterMark name) (counterMark name) := List.prefix_rfl
    exact ((((hname.append "outcome").append "=\"").append o.label).append "\"\x7d").append " "
  have hwithin : linesWith (labelled (name ++ "_total") "outcome" o.label ++ " ")
      (samplesIn name lines) =
        linesWith (labelled (name ++ "_total") "outcome" o.label ++ " ") lines :=
    linesWith_linesWith hmark lines
  rw [← hwithin, h]
  unfold linesWith
  simp only [List.filter_map, Function.comp_def, starts_outcomeSample_iff]
  -- The outcome is picked out of the order first, and only then is its count looked at.
  rw [List.filter_filter]
  simp only [Bool.and_comm (decide (_ = o))]
  rw [← List.filter_filter, filter_eq_outcome horder o]
  by_cases hcount : t.count o = 0
  · rw [if_pos hcount, List.filter_cons_of_neg (by simpa using hcount)]
    rfl
  · rw [if_neg hcount, List.filter_cons_of_pos (by simpa using hcount)]
    rfl

/-! ## The other families -/

theorem linesWith_gauge {name : String} (hhead : Apart (name ++ " ") "# ") (help : String)
    (n : Int) : linesWith (name ++ " ") (gauge name help n) = [sample name (toString n)] := by
  have hsample : Starts (name ++ " ") (sample name (toString n)) := starts_append _ _
  unfold gauge
  rw [linesWith_append, linesWith_head hhead, List.nil_append]
  exact List.filter_eq_self.2 (by simpa using hsample)

theorem linesWith_histogram_count {name : String} (hhead : Apart (name ++ "_count" ++ " ") "# ")
    (hsum : Apart (name ++ "_count" ++ " ") (name ++ "_sum"))
    (hbucket : Apart (name ++ "_count" ++ " ") (name ++ "_bucket")) (help : String)
    (h : Histogram) :
    linesWith (name ++ "_count" ++ " ") (histogram name help h) =
      [sample (name ++ "_count") (toString h.count)] := by
  have hbuckets : linesWith (name ++ "_count" ++ " ")
      (buckets name durationBounds (Histogram.cumulative 0 h.buckets)) = [] :=
    linesWith_eq_nil [name ++ "_bucket"] (fun _ hline => ⟨_, by simp, starts_buckets hline⟩)
      (by simpa using hbucket)
  have hother : ¬ Starts (name ++ "_count" ++ " ")
      (sample (name ++ "_sum") (Decimal.Layout.metric.float h.sum)) :=
    hsum.not_starts ((starts_append (name ++ "_sum") " ").append _)
  have hcount : Starts (name ++ "_count" ++ " ") (sample (name ++ "_count") (toString h.count)) :=
    starts_append _ _
  unfold histogram
  rw [linesWith_append, linesWith_append, linesWith_head hhead, hbuckets, List.nil_append,
    List.append_nil]
  unfold linesWith
  rw [List.filter_cons_of_neg (by simpa using hother),
    List.filter_cons_of_pos (by simpa using hcount)]
  rfl

/-- The name of the bucket without a bound. -/
def unbounded (name : String) : String := labelled (name ++ "_bucket") "le" "+Inf"

/-- No bound is written like the missing one. -/
theorem not_starts_unbounded (name : String) (bound : Float) (value : String) :
    ¬ Starts (unbounded name ++ " ")
      (sample (labelled (name ++ "_bucket") "le" (boundLabel false bound)) value) := by
  unfold unbounded
  rw [starts_labelled_iff]
  intro h
  -- What stands first behind the quote is a plus on one side and a figure or a quote on the other.
  unfold Starts at h
  rw [String.toList_append, String.toList_append, String.toList_append] at h
  cases hlabel : (boundLabel false bound).toList with
  | nil =>
    rw [hlabel] at h
    exact absurd (List.cons_prefix_cons.1 h).1 (by decide)
  | cons c cs =>
    rw [hlabel] at h
    have hplus : '+' = c := (List.cons_prefix_cons.1 h).1
    have hmem : c ∈ (boundLabel false bound).toList := by
      rw [hlabel]
      exact List.mem_cons_self
    have hfigure : Decimal.IsFigure c := Decimal.isFigure_of_mem_float hmem
    rw [← hplus] at hfigure
    exact absurd hfigure (by decide)

/-- The last of the buckets is the one without a bound. -/
theorem linesWith_buckets (name : String) {bounds : List Float} {ns : List Nat}
    (hlength : ns.length = bounds.length) :
    linesWith (unbounded name ++ " ") (buckets name bounds ns) =
      ns.getLast?.toList.map fun n => sample (unbounded name) (toString n) := by
  induction bounds generalizing ns with
  | nil =>
    obtain rfl := List.length_eq_zero_iff.1 hlength
    rfl
  | cons bound bounds ih =>
    cases ns with
    | nil => cases hlength
    | cons n ns =>
      have hlater := ih (Nat.succ.inj hlength)
      unfold linesWith at hlater ⊢
      unfold buckets
      cases bounds with
      | nil =>
        obtain rfl := List.length_eq_zero_iff.1 (Nat.succ.inj hlength)
        have hlast : Starts (unbounded name ++ " ")
            (sample (labelled (name ++ "_bucket") "le" (boundLabel true bound)) (toString n)) :=
          starts_append _ _
        exact List.filter_eq_self.2 (by simpa [buckets] using hlast)
      | cons next bounds =>
        -- More bounds follow, so this one is written as a number.
        cases ns with
        | nil => cases Nat.succ.inj hlength
        | cons m ns =>
          rw [List.getLast?_cons_cons, ← hlater]
          exact List.filter_cons_of_neg (by simpa using not_starts_unbounded name bound (toString n))

theorem linesWith_histogram_unbounded {name : String} (hhead : Apart (unbounded name ++ " ") "# ")
    (hsum : Apart (unbounded name ++ " ") (name ++ "_sum"))
    (hcount : Apart (unbounded name ++ " ") (name ++ "_count")) (help : String)
    {h : Histogram} (hcomplete : h.Complete) :
    linesWith (unbounded name ++ " ") (histogram name help h) =
      [sample (unbounded name) (toString h.count)] := by
  have hlength : (Histogram.cumulative 0 h.buckets).length = durationBounds.length := by
    rw [Histogram.length_cumulative, hcomplete.buckets]
  have hlast : (Histogram.cumulative 0 h.buckets).getLast? = some h.count := by
    rw [List.getLast?_eq_getElem?]
    exact hcomplete.getElem?_cumulative (by rw [hlength]; rfl)
  have hothers : linesWith (unbounded name ++ " ")
      [sample (name ++ "_sum") (Decimal.Layout.metric.float h.sum),
        sample (name ++ "_count") (toString h.count)] = [] := by
    refine linesWith_eq_nil [name ++ "_sum", name ++ "_count"] ?_ (by simpa using ⟨hsum, hcount⟩)
    intro line hline
    rcases List.mem_cons.1 hline with rfl | hline
    · exact ⟨_, by simp, (starts_append (name ++ "_sum") " ").append _⟩
    · obtain rfl := List.mem_singleton.1 hline
      exact ⟨_, by simp, (starts_append (name ++ "_count") " ").append _⟩
  unfold histogram
  rw [linesWith_append, linesWith_append, linesWith_head hhead, hothers, linesWith_buckets name hlength,
    hlast]
  rfl

end Exposition

namespace Metrics

open Exposition

section linesIn
variable (m : Metrics) (order : SampleOrder)

/-- Of all the families a text that no other family's lines start with finds lines of the
    histogram and the gauge only. -/
theorem linesWith_linesIn {mark : String} (hhead : Apart mark "# ")
    (hconfig : Apart mark (counterMark "sshgate_config_requests"))
    (hkey : Apart mark (counterMark "sshgate_pubkey_requests")) :
    linesWith mark (m.linesIn order) =
      linesWith mark (histogram "sshgate_pubkey_duration_seconds"
          "Public-key verification latency including the user lookup" m.keyDurations)
        ++ linesWith mark (gauge "sshgate_trusted_fingerprints"
          "Number of backend host-key fingerprints handed to the gateway" m.fingerprints) := by
  have hlast : linesWith mark [last] = [] :=
    linesWith_eq_nil ["# "] (by decide) (by simpa using hhead)
  unfold linesIn
  rw [linesWith_append, linesWith_append, linesWith_append, linesWith_append, hlast,
    linesWith_tallyIn hhead hconfig, linesWith_tallyIn hhead hkey, List.append_nil,
    List.nil_append, List.nil_append]

theorem linesWith_fingerprints :
    linesWith ("sshgate_trusted_fingerprints" ++ " ") (m.linesIn order) =
      [sample "sshgate_trusted_fingerprints" (toString m.fingerprints)] := by
  have hhistogram : linesWith ("sshgate_trusted_fingerprints" ++ " ")
      (histogram "sshgate_pubkey_duration_seconds"
        "Public-key verification latency including the user lookup" m.keyDurations) = [] :=
    linesWith_eq_nil (histogramMarks "sshgate_pubkey_duration_seconds")
      (fun _ hline => starts_histogram hline) (by decide)
  rw [m.linesWith_linesIn order (by decide) (by decide) (by decide), hhistogram,
    linesWith_gauge (by decide), List.nil_append]

/-- A text that the gauge's lines do not start with finds lines of the histogram only. -/
theorem linesWith_durations {mark : String} (hhead : Apart mark "# ")
    (hconfig : Apart mark (counterMark "sshgate_config_requests"))
    (hkey : Apart mark (counterMark "sshgate_pubkey_requests"))
    (hgauge : Apart mark "sshgate_trusted_fingerprints ") :
    linesWith mark (m.linesIn order) =
      linesWith mark (histogram "sshgate_pubkey_duration_seconds"
        "Public-key verification latency including the user lookup" m.keyDurations) := by
  have hnone : linesWith mark (gauge "sshgate_trusted_fingerprints"
      "Number of backend host-key fingerprints handed to the gateway" m.fingerprints) = [] :=
    linesWith_eq_nil ["# ", "sshgate_trusted_fingerprints "]
      (fun _ hline => by simpa using starts_gauge hline) (by simpa using ⟨hhead, hgauge⟩)
  rw [m.linesWith_linesIn order hhead hconfig hkey, hnone, List.append_nil]

theorem linesWith_count :
    linesWith ("sshgate_pubkey_duration_seconds" ++ "_count" ++ " ") (m.linesIn order) =
      [sample ("sshgate_pubkey_duration_seconds" ++ "_count") (toString m.keyDurations.count)] := by
  rw [m.linesWith_durations order (by decide) (by decide) (by decide) (by decide),
    linesWith_histogram_count (by decide) (by decide) (by decide)]

theorem linesWith_unbounded (hcomplete : m.keyDurations.Complete) :
    linesWith (unbounded "sshgate_pubkey_duration_seconds" ++ " ") (m.linesIn order) =
      [sample (unbounded "sshgate_pubkey_duration_seconds") (toString m.keyDurations.count)] := by
  rw [m.linesWith_durations order (by decide) (by decide) (by decide) (by decide),
    linesWith_histogram_unbounded (by decide) (by decide) (by decide) _ hcomplete]

end linesIn

end Metrics

end Gatehouse
