import Gatehouse.Metrics.Step

/-! # Samples in the exposition

    A reader of the exposition finds the samples of a counter by how their lines start.  No
    line of another family starts like that, so what the reader finds are the samples that
    the counter's own family was given: one for each outcome counted, with the count.

    Core Lean 4 only. -/

namespace Gatehouse

/-! ## Tallies -/

/-- Every count of a tally is the count of some outcome. -/
theorem Outcome.exists_index_eq (i : Fin 7) : ∃ o : Outcome, o.index = i := by
  have hall : ∀ i : Fin 7, ∃ o ∈ Outcome.all, o.index = i := by decide
  obtain ⟨o, -, ho⟩ := hall i
  exact ⟨o, ho⟩

namespace Tally

/-- A tally is nothing but its counts. -/
theorem ext_count {t t' : Tally} (h : ∀ o, t.count o = t'.count o) : t = t' := by
  cases t with
  | mk counts =>
    cases t' with
    | mk counts' =>
      congr 1
      ext i hi
      obtain ⟨o, ho⟩ := Outcome.exists_index_eq ⟨i, hi⟩
      have hcount := h o
      unfold count at hcount
      simpa [ho] using hcount

/-- Counting at most one outcome adds one to its count. -/
theorem count_elim (t : Tally) (counted : Option Outcome) (o : Outcome) :
    (counted.elim t t.add).count o = t.count o + if counted = some o then 1 else 0 := by
  cases counted with
  | none => rfl
  | some p =>
    show (t.add p).count o = _
    rw [count_add]
    by_cases hop : o = p
    · simp [hop]
    · simp [hop, Ne.symm hop]

/-- The number of times that one of the outcomes was counted. -/
def total (t : Tally) (os : List Outcome) : Nat := os.foldr (fun o n => t.count o + n) 0

theorem total_zero (os : List Outcome) : zero.total os = 0 := by
  induction os with
  | nil => rfl
  | cons o os ih =>
    show zero.count o + zero.total os = 0
    rw [count_zero, ih]

/-- Counting an outcome adds one to the number of all. -/
theorem total_add (t : Tally) (o : Outcome) : (t.add o).total Outcome.all = t.total Outcome.all + 1 := by
  unfold total
  cases o <;> simp [Outcome.all, count_add] <;> omega

end Tally

namespace Exposition

/-! ## How lines start -/

/-- The line starts with the text. -/
def Starts (text line : String) : Prop := text.toList <+: line.toList

instance (text line : String) : Decidable (Starts text line) :=
  inferInstanceAs (Decidable (_ <+: _))

theorem starts_append (text rest : String) : Starts text (text ++ rest) := by
  unfold Starts
  rw [String.toList_append]
  exact List.prefix_append _ _

theorem Starts.append {text line : String} (h : Starts text line) (rest : String) :
    Starts text (line ++ rest) := by
  unfold Starts
  rw [String.toList_append]
  exact List.IsPrefix.trans h (List.prefix_append _ _)

/-- No line starts with both of the texts. -/
def Apart (text other : String) : Prop := ¬ Starts text other ∧ ¬ Starts other text

instance (text other : String) : Decidable (Apart text other) :=
  inferInstanceAs (Decidable (_ ∧ _))

theorem Apart.not_starts {text other line : String} (h : Apart text other)
    (hother : Starts other line) : ¬ Starts text line := by
  intro htext
  rcases List.prefix_or_prefix_of_prefix htext hother with hprefix | hprefix
  · exact h.1 hprefix
  · exact h.2 hprefix

/-! ## The lines of a family -/

/-- How the samples of a counter start. -/
def counterMark (name : String) : String := name ++ "_total" ++ "\x7b"

/-- The sample of an outcome. -/
def outcomeSample (name : String) (t : Tally) (o : Outcome) : String :=
  sample (labelled (name ++ "_total") "outcome" o.label) (toString (t.count o))

theorem starts_outcomeSample (name : String) (t : Tally) (o : Outcome) :
    Starts (counterMark name) (outcomeSample name t o) := by
  have hmark : Starts (counterMark name) (counterMark name) := List.prefix_rfl
  exact (((((hmark.append "outcome").append "=\"").append o.label).append "\"\x7d").append
    " ").append _

theorem starts_head {name kind help line : String} (h : line ∈ head name kind help) :
    Starts "# " line := by
  have hhelp : Starts "# " "# HELP " := by decide
  have htype : Starts "# " "# TYPE " := by decide
  rcases List.mem_cons.1 h with rfl | h
  · exact (((hhelp.append name).append " ").append help).append "."
  · obtain rfl := List.mem_singleton.1 h
    exact ((htype.append name).append " ").append kind

theorem starts_gauge {name help line : String} {n : Int} (h : line ∈ gauge name help n) :
    Starts "# " line ∨ Starts (name ++ " ") line := by
  rcases List.mem_append.1 h with h | h
  · exact .inl (starts_head h)
  · obtain rfl := List.mem_singleton.1 h
    exact .inr (starts_append (name ++ " ") (toString n))

theorem starts_tallyIn {order : List Outcome} {name help line : String} {t : Tally}
    (h : line ∈ tallyIn order name help t) : Starts "# " line ∨ Starts (counterMark name) line := by
  rcases List.mem_append.1 h with h | h
  · exact .inl (starts_head h)
  · obtain ⟨o, -, rfl⟩ := List.mem_map.1 h
    exact .inr (starts_outcomeSample name t o)

theorem starts_buckets {name line : String} {bounds : List Float} {ns : List Nat}
    (h : line ∈ buckets name bounds ns) : Starts (name ++ "_bucket") line := by
  induction bounds generalizing ns with
  | nil => cases h
  | cons bound bounds ih =>
    cases ns with
    | nil => cases h
    | cons n ns =>
      rcases List.mem_cons.1 h with rfl | h
      · have hname : Starts (name ++ "_bucket") (name ++ "_bucket") := List.prefix_rfl
        exact ((((((hname.append "\x7b").append "le").append "=\"").append _).append
          "\"\x7d").append " ").append _
      · exact ih h

/-- How the lines of a histogram start. -/
def histogramMarks (name : String) : List String :=
  ["# ", name ++ "_sum", name ++ "_count", name ++ "_bucket"]

theorem starts_histogram {name help line : String} {h : Histogram}
    (hline : line ∈ histogram name help h) :
    ∃ other ∈ histogramMarks name, Starts other line := by
  rcases List.mem_append.1 hline with hline | hline
  · rcases List.mem_append.1 hline with hline | hline
    · exact ⟨_, by simp [histogramMarks], starts_head hline⟩
    · rcases List.mem_cons.1 hline with rfl | hline
      · exact ⟨name ++ "_sum", by simp [histogramMarks],
          (starts_append (name ++ "_sum") " ").append _⟩
      · obtain rfl := List.mem_singleton.1 hline
        exact ⟨name ++ "_count", by simp [histogramMarks],
          (starts_append (name ++ "_count") " ").append _⟩
  · exact ⟨name ++ "_bucket", by simp [histogramMarks], starts_buckets hline⟩

/-! ## Finding lines -/

/-- The lines of an exposition that start with a text. -/
def linesWith (mark : String) (lines : List String) : List String :=
  lines.filter fun line => Starts mark line

theorem linesWith_append (mark : String) (lines more : List String) :
    linesWith mark (lines ++ more) = linesWith mark lines ++ linesWith mark more :=
  List.filter_append ..

/-- There are none among lines that start differently. -/
theorem linesWith_eq_nil {mark : String} (others : List String) {lines : List String}
    (hlines : ∀ line ∈ lines, ∃ other ∈ others, Starts other line)
    (hothers : ∀ other ∈ others, Apart mark other) : linesWith mark lines = [] := by
  unfold linesWith
  rw [List.filter_eq_nil_iff]
  intro line hline
  obtain ⟨other, hother, hstarts⟩ := hlines line hline
  simpa using (hothers other hother).not_starts hstarts

theorem linesWith_head {mark name kind help : String} (h : Apart mark "# ") :
    linesWith mark (head name kind help) = [] :=
  linesWith_eq_nil ["# "] (fun _ hline => ⟨_, by simp, starts_head hline⟩) (by simpa using h)

theorem linesWith_tallyIn {mark name : String} (hhead : Apart mark "# ")
    (h : Apart mark (counterMark name)) (order : List Outcome) (help : String) (t : Tally) :
    linesWith mark (tallyIn order name help t) = [] :=
  linesWith_eq_nil ["# ", counterMark name]
    (fun _ hline => by simpa using starts_tallyIn hline) (by simpa using ⟨hhead, h⟩)

/-- The lines of an exposition that start like samples of the counter. -/
def samplesIn (name : String) (lines : List String) : List String :=
  lines.filter fun line => Starts (counterMark name) line

theorem samplesIn_append (name : String) (lines more : List String) :
    samplesIn name (lines ++ more) = samplesIn name lines ++ samplesIn name more :=
  linesWith_append ..

/-- In its own family a counter has a sample for each outcome counted. -/
theorem samplesIn_tallyIn {name : String} (h : Apart (counterMark name) "# ")
    (order : List Outcome) (help : String) (t : Tally) :
    samplesIn name (tallyIn order name help t) =
      (order.filter fun o => t.count o ≠ 0).map (outcomeSample name t) := by
  have hhead : samplesIn name (head name "counter" help) = [] := linesWith_head h
  have hsamples : ∀ line ∈ (order.filter fun o => t.count o ≠ 0).map (outcomeSample name t),
      Starts (counterMark name) line := by
    intro line hline
    obtain ⟨o, -, rfl⟩ := List.mem_map.1 hline
    exact starts_outcomeSample name t o
  unfold tallyIn
  rw [samplesIn_append, hhead, List.nil_append]
  exact List.filter_eq_self.2 fun line hline => decide_eq_true (hsamples line hline)

end Exposition

namespace Metrics

open Exposition

/-- How the lines start that belong to neither counter. -/
def otherMarks : List String :=
  histogramMarks "sshgate_pubkey_duration_seconds" ++ ["sshgate_trusted_fingerprints "]

/-- What the exposition has besides the two counters holds no sample of a counter. -/
theorem samplesIn_rest (m : Metrics) {name : String}
    (h : ∀ other ∈ otherMarks, Apart (counterMark name) other) :
    samplesIn name
        (histogram "sshgate_pubkey_duration_seconds"
            "Public-key verification latency including the user lookup" m.keyDurations
          ++ gauge "sshgate_trusted_fingerprints"
            "Number of backend host-key fingerprints handed to the gateway" m.fingerprints
          ++ [last]) = [] := by
  refine linesWith_eq_nil otherMarks ?_ h
  intro line hline
  rcases List.mem_append.1 hline with hline | hline
  · rcases List.mem_append.1 hline with hline | hline
    · obtain ⟨other, hother, hstarts⟩ := starts_histogram hline
      exact ⟨other, List.mem_append_left _ hother, hstarts⟩
    · rcases starts_gauge hline with hstarts | hstarts
      · exact ⟨"# ", by decide, hstarts⟩
      · exact ⟨"sshgate_trusted_fingerprints ", by decide, hstarts⟩
  · obtain rfl := List.mem_singleton.1 hline
    exact ⟨"# ", by decide, by decide⟩

/-- The samples of route requests: one for each outcome counted. -/
theorem samplesIn_config_linesIn (m : Metrics) (order : SampleOrder) :
    samplesIn "sshgate_config_requests" (m.linesIn order) =
      (order.config.filter fun o => m.configRequests.count o ≠ 0).map
        (outcomeSample "sshgate_config_requests" m.configRequests) := by
  have hother : samplesIn "sshgate_config_requests" (tallyIn order.key "sshgate_pubkey_requests"
      "Public-key webhook calls by outcome" m.keyRequests) = [] :=
    linesWith_tallyIn (by decide) (by decide) _ _ _
  unfold linesIn
  rw [List.append_assoc, List.append_assoc, samplesIn_append, samplesIn_append,
    samplesIn_tallyIn (by decide), hother, ← List.append_assoc, samplesIn_rest m (by decide),
    List.append_nil, List.append_nil]

/-- The samples of key checks: one for each outcome counted. -/
theorem samplesIn_key_linesIn (m : Metrics) (order : SampleOrder) :
    samplesIn "sshgate_pubkey_requests" (m.linesIn order) =
      (order.key.filter fun o => m.keyRequests.count o ≠ 0).map
        (outcomeSample "sshgate_pubkey_requests" m.keyRequests) := by
  have hother : samplesIn "sshgate_pubkey_requests" (tallyIn order.config "sshgate_config_requests"
      "Route resolution webhook calls by outcome" m.configRequests) = [] :=
    linesWith_tallyIn (by decide) (by decide) _ _ _
  unfold linesIn
  rw [List.append_assoc, List.append_assoc, samplesIn_append, samplesIn_append, hother,
    samplesIn_tallyIn (by decide), ← List.append_assoc, samplesIn_rest m (by decide),
    List.append_nil, List.nil_append]

theorem samplesIn_configRequests (m : Metrics) :
    samplesIn "sshgate_config_requests" m.lines =
      (Outcome.all.filter fun o => m.configRequests.count o ≠ 0).map
        (outcomeSample "sshgate_config_requests" m.configRequests) :=
  m.samplesIn_config_linesIn .declared

theorem samplesIn_keyRequests (m : Metrics) :
    samplesIn "sshgate_pubkey_requests" m.lines =
      (Outcome.all.filter fun o => m.keyRequests.count o ≠ 0).map
        (outcomeSample "sshgate_pubkey_requests" m.keyRequests) :=
  m.samplesIn_key_linesIn .declared

/-- The exposition tells the number of durations. -/
theorem count_mem_lines (m : Metrics) :
    sample "sshgate_pubkey_duration_seconds_count" (toString m.keyDurations.count) ∈ m.lines := by
  unfold lines linesIn histogram
  simp

end Metrics

end Gatehouse
