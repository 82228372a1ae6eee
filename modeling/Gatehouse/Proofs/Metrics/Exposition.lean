import Gatehouse.Proofs.Metrics.Readout
import Std.Data.String.ToInt

/-! # What an exposition tells

    Over any run the exposition tells what was recorded and nothing else: a sample for each
    outcome that was counted at all, with its count, the number set last and the number of
    durations (`Exposes`), all of which can be read from the text again (`ReadsBack`).

    It tells no more than that: runs that record the same have the same expositions, but for the
    order of the outcomes (`Reordered`). -/

namespace Gatehouse

namespace Exposition

/-- The sample of an outcome that was counted a number of times. -/
def outcomeLine (family : String) (o : Outcome) (n : Nat) : String :=
  sample (labelled (family ++ "_total") "outcome" o.label) (toString n)

/-- The count of an outcome that a text tells. -/
def counterIn (family : String) (o : Outcome) (text : String) : Nat :=
  ((valueOf? (labelled (family ++ "_total") "outcome" o.label) text).bind String.toNat?).getD 0

theorem counterIn_eq {family text : String} {t : Tally} {order : List Outcome}
    (horder : order.Perm Outcome.all)
    (h : samplesIn family (linesOf text) =
      (order.filter fun o => t.count o ≠ 0).map (outcomeSample family t)) (o : Outcome) :
    counterIn family o text = t.count o := by
  have hlines := linesWith_outcome horder h o
  unfold counterIn
  by_cases hcount : t.count o = 0
  · rw [if_pos hcount] at hlines
    rw [valueOf?, hlines, hcount]
    rfl
  · rw [if_neg hcount] at hlines
    have hnumber : (toString (t.count o)).toNat? = some (t.count o) := Nat.toNat?_repr _
    rw [valueOf?_eq hlines, Option.bind_some, hnumber, Option.getD_some]

end Exposition

namespace Metrics

open Exposition

/-- The text tells what the steps recorded: every count that is not zero, once, the number of
    fingerprints, and the number of durations, which is also that of the last bucket. -/
structure Exposes (text : String) (steps : List Step) : Prop where
  lines        : text = String.join ((linesOf text).map (· ++ "\n"))
  config       : (samplesIn "sshgate_config_requests" (linesOf text)).Perm
    ((Outcome.all.filter fun o => configCount steps o ≠ 0).map fun o =>
      outcomeLine "sshgate_config_requests" o (configCount steps o))
  key          : (samplesIn "sshgate_pubkey_requests" (linesOf text)).Perm
    ((Outcome.all.filter fun o => keyCount steps o ≠ 0).map fun o =>
      outcomeLine "sshgate_pubkey_requests" o (keyCount steps o))
  fingerprints : linesWith ("sshgate_trusted_fingerprints" ++ " ") (linesOf text) =
    [sample "sshgate_trusted_fingerprints" (toString (lastFingerprints steps))]
  count        : linesWith ("sshgate_pubkey_duration_seconds" ++ "_count" ++ " ") (linesOf text) =
    [sample ("sshgate_pubkey_duration_seconds" ++ "_count") (toString (durations steps).length)]
  unbounded    : linesWith (unbounded "sshgate_pubkey_duration_seconds" ++ " ") (linesOf text) =
    [sample (unbounded "sshgate_pubkey_duration_seconds") (toString (durations steps).length)]
  ending       : (linesOf text).getLast? = some "# EOF"

/-- What the steps recorded can be read from the text. -/
structure ReadsBack (text : String) (steps : List Step) : Prop where
  config       : ∀ o, counterIn "sshgate_config_requests" o text = configCount steps o
  key          : ∀ o, counterIn "sshgate_pubkey_requests" o text = keyCount steps o
  fingerprints : (valueOf? "sshgate_trusted_fingerprints" text).bind String.toInt? =
    some (lastFingerprints steps)
  count        : (valueOf? ("sshgate_pubkey_duration_seconds" ++ "_count") text).bind
    String.toNat? = some (durations steps).length

/-- The texts are the same up to the order of the outcomes of each counter. -/
def Reordered (text text' : String) : Prop :=
  ∃ before config config' between key key' after : List String,
    linesOf text = before ++ config ++ between ++ key ++ after ∧
      linesOf text' = before ++ config' ++ between ++ key' ++ after ∧
      config.Perm config' ∧ key.Perm key' ∧
      (∀ line ∈ config, Starts (counterMark "sshgate_config_requests") line) ∧
      ∀ line ∈ key, Starts (counterMark "sshgate_pubkey_requests") line

section records
variable {m : Metrics} {steps : List Step}

/-- In whichever order the outcomes are shown, the samples are those of the counts. -/
theorem perm_outcomeLines {order : List Outcome} (horder : order.Perm Outcome.all)
    {family : String} {t : Tally} {counts : Outcome → Nat} (h : ∀ o, t.count o = counts o) :
    ((order.filter fun o => t.count o ≠ 0).map (outcomeSample family t)).Perm
      ((Outcome.all.filter fun o => counts o ≠ 0).map fun o => outcomeLine family o (counts o)) := by
  have hline : outcomeSample family t = fun o => outcomeLine family o (counts o) := by
    funext o
    unfold outcomeSample outcomeLine
    rw [h]
  simp only [hline, h]
  exact (horder.filter _).map _

theorem Records.exposes (h : m.Records steps) (hcomplete : m.keyDurations.Complete)
    (order : SampleOrder) : Exposes (m.expositionIn order) steps where
  lines := by
    rw [linesOf_expositionIn]
    rfl
  config := by
    rw [linesOf_expositionIn, samplesIn_config_linesIn]
    exact perm_outcomeLines order.config_perm h.config
  key := by
    rw [linesOf_expositionIn, samplesIn_key_linesIn]
    exact perm_outcomeLines order.key_perm h.key
  fingerprints := by rw [linesOf_expositionIn, linesWith_fingerprints, h.fingerprints]
  count := by rw [linesOf_expositionIn, linesWith_count, h.count_keyDurations]
  unbounded := by
    rw [linesOf_expositionIn, m.linesWith_unbounded order hcomplete, h.count_keyDurations]
  ending := by
    rw [linesOf_expositionIn]
    exact List.getLast?_concat

theorem Records.readsBack (h : m.Records steps) (order : SampleOrder) :
    ReadsBack (m.expositionIn order) steps where
  config o := by
    rw [← h.config]
    refine counterIn_eq order.config_perm ?_ o
    rw [linesOf_expositionIn, samplesIn_config_linesIn]
  key o := by
    rw [← h.key]
    refine counterIn_eq order.key_perm ?_ o
    rw [linesOf_expositionIn, samplesIn_key_linesIn]
  fingerprints := by
    have hvalue : valueOf? "sshgate_trusted_fingerprints" (m.expositionIn order) =
        some (toString m.fingerprints) := by
      apply valueOf?_eq
      rw [linesOf_expositionIn, linesWith_fingerprints]
    have hnumber : (toString m.fingerprints).toInt? = some m.fingerprints := Int.toInt?_repr _
    rw [hvalue, Option.bind_some, hnumber, h.fingerprints]
  count := by
    have hvalue : valueOf? ("sshgate_pubkey_duration_seconds" ++ "_count") (m.expositionIn order) =
        some (toString m.keyDurations.count) := by
      apply valueOf?_eq
      rw [linesOf_expositionIn, linesWith_count]
    have hnumber : (toString m.keyDurations.count).toNat? = some m.keyDurations.count :=
      Nat.toNat?_repr _
    rw [hvalue, Option.bind_some, hnumber, h.count_keyDurations]

/-- Two expositions of the same metrics differ in the order of the outcomes only. -/
theorem reordered_expositionIn (m : Metrics) (order order' : SampleOrder) :
    Reordered (m.expositionIn order) (m.expositionIn order') := by
  have hstarts : ∀ (outcomes : List Outcome) (name : String) (t : Tally),
      ∀ line ∈ (outcomes.filter fun o => t.count o ≠ 0).map (outcomeSample name t),
        Starts (counterMark name) line := by
    intro outcomes name t line hline
    obtain ⟨o, -, rfl⟩ := List.mem_map.1 hline
    exact starts_outcomeSample name t o
  have hconfig := order.config_perm.trans order'.config_perm.symm
  have hkey := order.key_perm.trans order'.key_perm.symm
  unfold Reordered
  rw [linesOf_expositionIn, linesOf_expositionIn]
  unfold linesIn tallyIn
  simp only [List.append_assoc]
  -- Before, between and after the samples of the counters both have the very same lines.
  exact ⟨_, _, _, _, _, _, _, rfl, rfl, (hconfig.filter _).map _, (hkey.filter _).map _,
    hstarts _ _ _, hstarts _ _ _⟩

end records

/-! ## Over a run -/

/-- Only finite durations are observed. -/
def IsFinite (steps : List Step) : Prop :=
  ∀ seconds, Step.observe seconds ∈ steps → seconds.isFinite = true

theorem IsFinite.take {steps : List Step} (h : IsFinite steps) (i : Nat) :
    IsFinite (steps.take i) :=
  fun seconds hmem => h seconds (List.mem_of_mem_take hmem)

theorem IsFinite.durations {steps : List Step} (h : IsFinite steps) :
    ∀ seconds ∈ Metrics.durations steps, seconds.isFinite = true := by
  intro seconds hmem
  obtain ⟨s, hs, hseconds⟩ := List.mem_filterMap.1 hmem
  cases s with
  | observe x =>
    obtain rfl := Option.some.inj hseconds
    exact h x hs
  | _ => cases hseconds

/-- Each step is answered in the metrics that the steps before it recorded. -/
theorem answer_run {steps : List Step} {i : Nat} {s : Step} (h : steps[i]? = some s) :
    (zero.run steps).1[i]? = some ((zero.run (steps.take i)).2.step s).1 := by
  unfold run
  rw [getElem?_inTurn, h, Option.map_some]

theorem run_take_succ {steps : List Step} {i : Nat} {s : Step} (h : steps[i]? = some s) :
    (zero.run (steps.take (i + 1))).2 = ((zero.run (steps.take i)).2.step s).2 :=
  inTurn_take_succ step zero h

theorem Records.countConfig {m : Metrics} {steps : List Step} (h : m.Records steps)
    (o : Outcome) : (m.step (.countConfig o)).1 = .counted (configCount steps o + 1) := by
  show Answer.counted ((m.configRequests.add o).count o) = _
  rw [count_add_eq, if_pos rfl, h.config]

theorem Records.countKey {m : Metrics} {steps : List Step} (h : m.Records steps)
    (o : Outcome) : (m.step (.countKey o)).1 = .counted (keyCount steps o + 1) := by
  show Answer.counted ((m.keyRequests.add o).count o) = _
  rw [count_add_eq, if_pos rfl, h.key]

/-- Whatever is done with metrics, a count is one more than how often its outcome was counted
    before, the number that is replaced is the one set last, and an exposition changes nothing
    and tells just what was recorded, so that it can be read back.  Runs that record the same
    cannot be told apart by their expositions. -/
theorem run_exposes {steps : List Step} (hfinite : IsFinite steps) :
    (zero.run steps).1.length = steps.length ∧
      (∀ (i : Nat) (o : Outcome), steps[i]? = some (Step.countConfig o) →
        (zero.run steps).1[i]? = some (Answer.counted (configCount (steps.take i) o + 1))) ∧
      (∀ (i : Nat) (o : Outcome), steps[i]? = some (Step.countKey o) →
        (zero.run steps).1[i]? = some (Answer.counted (keyCount (steps.take i) o + 1))) ∧
      (∀ (i : Nat) (n : Int), steps[i]? = some (Step.setFingerprints n) →
        (zero.run steps).1[i]? = some (Answer.replaced (lastFingerprints (steps.take i)))) ∧
      (∀ (i : Nat) (order : SampleOrder), steps[i]? = some (Step.expose order) →
        (zero.run (steps.take (i + 1))).2 = (zero.run (steps.take i)).2 ∧
          ∃ text, (zero.run steps).1[i]? = some (Answer.exposed text) ∧
            Exposes text (steps.take i) ∧ ReadsBack text (steps.take i)) ∧
      ∀ steps', RecordAlike steps steps' → ∀ order order',
        Reordered ((zero.run steps).2.expositionIn order)
          ((zero.run steps').2.expositionIn order') := by
  refine ⟨length_inTurn step zero steps, ?_, ?_, ?_, ?_, ?_⟩
  · intro i o hi
    rw [answer_run hi, (records_run _).countConfig]
  · intro i o hi
    rw [answer_run hi, (records_run _).countKey]
  · intro i n hi
    rw [answer_run hi, ← (records_run _).fingerprints]
    rfl
  · intro i order hi
    -- What is exposed is what the steps before this one recorded.
    have hrecords := records_run (steps.take i)
    have hcomplete : (zero.run (steps.take i)).2.keyDurations.Complete := by
      rw [hrecords.durations]
      exact complete_foldl_observe (hfinite.take i).durations Histogram.complete_zero
    exact ⟨run_take_succ hi, _, answer_run hi, hrecords.exposes hcomplete order,
      hrecords.readsBack order⟩
  · intro steps' halike order order'
    rw [(records_run steps).eq_of_recordAlike (records_run steps') halike]
    exact reordered_expositionIn _ order order'

/-- Two accepted keys and one duration, exposed with the outcomes backwards. -/
theorem run_exposes_backwards :
    let order : SampleOrder :=
      ⟨Outcome.all.reverse, Outcome.all.reverse, List.reverse_perm _, List.reverse_perm _⟩
    let steps : List Step := [.countKey .accepted, .observe 0.25, .countKey .storeError,
      .setFingerprints 3, .countKey .accepted, .expose order, .setFingerprints 0]
    IsFinite steps ∧
      (zero.run steps).1[4]? = some (.counted 2) ∧
      (zero.run steps).1[6]? = some (.replaced 3) ∧
      ∃ text, (zero.run steps).1[5]? = some (.exposed text) ∧
        (samplesIn "sshgate_pubkey_requests" (linesOf text)).Perm
          ["sshgate_pubkey_requests_total\x7boutcome=\"Accepted\"\x7d 2",
            "sshgate_pubkey_requests_total\x7boutcome=\"StoreError\"\x7d 1"] ∧
        counterIn "sshgate_config_requests" .resolved text = 0 ∧
        (valueOf? ("sshgate_pubkey_duration_seconds" ++ "_count") text).bind String.toNat? =
          some 1 := by
  intro order steps
  have hfinite : IsFinite steps := by
    intro seconds hmem
    obtain rfl : seconds = 0.25 := by simpa [steps] using hmem
    decide +kernel
  obtain ⟨-, -, hkey, hset, hexpose, -⟩ := run_exposes hfinite
  obtain ⟨-, text, htext, hexposes, hreads⟩ := hexpose 5 order rfl
  refine ⟨hfinite, hkey 4 .accepted rfl, hset 6 0 rfl, text, htext, ?_, ?_, ?_⟩
  · exact hexposes.key.trans (List.Perm.of_eq (by decide +kernel))
  · exact hreads.config .resolved
  · exact hreads.count

end Metrics

end Gatehouse
