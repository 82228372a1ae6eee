import Gatehouse.Metrics.Exposition
import Gatehouse.Proofs.Decimal.Layout
import Gatehouse.Proofs.Text.Lines

/-! # The lines of an exposition

    A reader of an exposition has its text only.  Nothing that is written into a line ends it,
    so the lines can be cut out of the text again (`linesOf_expositionIn`). -/

namespace Gatehouse

namespace Exposition

/-! ## Lines of a text -/

/-- The lines of a text. -/
def linesOf (text : String) : List String := (Text.lines text.toList).map String.ofList

/-- Is the text without ends of lines? -/
def IsOneLine (text : String) : Prop := '\n' ∉ text.toList ∧ '\r' ∉ text.toList

instance (text : String) : Decidable (IsOneLine text) :=
  inferInstanceAs (Decidable ('\n' ∉ text.toList ∧ '\r' ∉ text.toList))

theorem linesOf_join {lines : List String} (h : ∀ line ∈ lines, IsOneLine line) :
    linesOf (String.join (lines.map (· ++ "\n"))) = lines := by
  induction lines with
  | nil => rfl
  | cons line lines ih =>
    obtain ⟨hline, hlines⟩ := List.forall_mem_cons.1 h
    -- Cutting at an end of line takes a return before it along, so there must be none.
    have hreturn : Text.dropReturn line.toList = line.toList := by
      unfold Text.dropReturn
      rw [if_neg]
      intro hlast
      exact hline.2 (List.mem_of_getLast? hlast)
    have htext : (String.join ((line :: lines).map (· ++ "\n"))).toList =
        line.toList ++ '\n' :: (String.join (lines.map (· ++ "\n"))).toList := by
      simp
    unfold linesOf at ih ⊢
    rw [htext, Text.lines_append hline.1, List.map_cons, hreturn, String.ofList_toList, ih hlines]

/-! ## What is written into lines -/

theorem IsOneLine.append {text more : String} (h : IsOneLine text) (h' : IsOneLine more) :
    IsOneLine (text ++ more) := by
  unfold IsOneLine
  rw [String.toList_append, List.mem_append, List.mem_append]
  exact ⟨not_or.2 ⟨h.1, h'.1⟩, not_or.2 ⟨h.2, h'.2⟩⟩

/-- Characters of a kind that ends of lines are not of. -/
theorem isOneLine_of_forall {text : String} {p : Char → Prop} (h : ∀ c ∈ text.toList, p c)
    (hfeed : ¬ p '\n') (hreturn : ¬ p '\r') : IsOneLine text :=
  ⟨fun hmem => hfeed (h _ hmem), fun hmem => hreturn (h _ hmem)⟩

theorem isOneLine_nat (n : Nat) : IsOneLine (toString n) := by
  have hdigits : ∀ c ∈ (toString n).toList, c.isDigit = true := by
    intro c hc
    have htext : (toString n).toList = Text.decimal n := String.toList_ofList
    rw [htext] at hc
    exact Decimal.isDigit_of_mem_decimal hc
  exact isOneLine_of_forall hdigits (by decide) (by decide)

theorem isOneLine_int (n : Int) : IsOneLine (toString n) := by
  cases n with
  | ofNat n => exact isOneLine_nat n
  | negSucc n =>
    have hsign : IsOneLine "-" := by decide
    exact hsign.append (isOneLine_nat (n + 1))

theorem isOneLine_float (x : Float) : IsOneLine (Decimal.Layout.metric.float x) :=
  isOneLine_of_forall (fun _ hc => Decimal.isFigure_of_mem_float hc) (by decide) (by decide)

section lines
variable {name help : String}

theorem isOneLine_sample {value : String} (hname : IsOneLine name) (hvalue : IsOneLine value) :
    IsOneLine (sample name value) := by
  have hspace : IsOneLine " " := by decide
  exact (hname.append hspace).append hvalue

theorem isOneLine_labelled {label value : String} (hname : IsOneLine name)
    (hlabel : IsOneLine label) (hvalue : IsOneLine value) :
    IsOneLine (labelled name label value) := by
  have hopen : IsOneLine "\x7b" := by decide
  have hequals : IsOneLine "=\"" := by decide
  have hclose : IsOneLine "\"\x7d" := by decide
  exact ((((hname.append hopen).append hlabel).append hequals).append hvalue).append hclose

theorem isOneLine_head {kind : String} (hname : IsOneLine name) (hkind : IsOneLine kind)
    (hhelp : IsOneLine help) : ∀ line ∈ head name kind help, IsOneLine line := by
  have hspace : IsOneLine " " := by decide
  have hpoint : IsOneLine "." := by decide
  have hfirst : IsOneLine "# HELP " := by decide
  have hsecond : IsOneLine "# TYPE " := by decide
  intro line hline
  rcases List.mem_cons.1 hline with rfl | hline
  · exact (((hfirst.append hname).append hspace).append hhelp).append hpoint
  · obtain rfl := List.mem_singleton.1 hline
    exact ((hsecond.append hname).append hspace).append hkind

theorem isOneLine_tallyIn (hname : IsOneLine name) (hhelp : IsOneLine help)
    (order : List Outcome) (t : Tally) : ∀ line ∈ tallyIn order name help t, IsOneLine line := by
  have htotal : IsOneLine "_total" := by decide
  have hlabel : ∀ o : Outcome, IsOneLine o.label := by
    intro o
    cases o <;> decide
  intro line hline
  rcases List.mem_append.1 hline with hline | hline
  · exact isOneLine_head hname (by decide) hhelp line hline
  · obtain ⟨o, -, rfl⟩ := List.mem_map.1 hline
    exact isOneLine_sample (isOneLine_labelled (hname.append htotal) (by decide) (hlabel o))
      (isOneLine_nat _)

theorem isOneLine_boundLabel (last : Bool) (bound : Float) : IsOneLine (boundLabel last bound) := by
  unfold boundLabel
  split
  · decide
  · exact isOneLine_float bound

theorem isOneLine_buckets (hname : IsOneLine name) (bounds : List Float) (ns : List Nat) :
    ∀ line ∈ buckets name bounds ns, IsOneLine line := by
  have hbucket : IsOneLine "_bucket" := by decide
  induction bounds generalizing ns with
  | nil => simp [buckets]
  | cons bound bounds ih =>
    cases ns with
    | nil => simp [buckets]
    | cons n ns =>
      intro line hline
      rcases List.mem_cons.1 hline with rfl | hline
      · exact isOneLine_sample (isOneLine_labelled (hname.append hbucket) (by decide)
          (isOneLine_boundLabel _ _)) (isOneLine_nat n)
      · exact ih ns line hline

theorem isOneLine_histogram (hname : IsOneLine name) (hhelp : IsOneLine help) (h : Histogram) :
    ∀ line ∈ histogram name help h, IsOneLine line := by
  have hsum : IsOneLine "_sum" := by decide
  have hcount : IsOneLine "_count" := by decide
  intro line hline
  rcases List.mem_append.1 hline with hline | hline
  · rcases List.mem_append.1 hline with hline | hline
    · exact isOneLine_head hname (by decide) hhelp line hline
    · rcases List.mem_cons.1 hline with rfl | hline
      · exact isOneLine_sample (hname.append hsum) (isOneLine_float h.sum)
      · obtain rfl := List.mem_singleton.1 hline
        exact isOneLine_sample (hname.append hcount) (isOneLine_nat h.count)
  · exact isOneLine_buckets hname _ _ line hline

theorem isOneLine_gauge (hname : IsOneLine name) (hhelp : IsOneLine help) (n : Int) :
    ∀ line ∈ gauge name help n, IsOneLine line := by
  intro line hline
  rcases List.mem_append.1 hline with hline | hline
  · exact isOneLine_head hname (by decide) hhelp line hline
  · obtain rfl := List.mem_singleton.1 hline
    exact isOneLine_sample hname (isOneLine_int n)

end lines

end Exposition

namespace Metrics

open Exposition

theorem isOneLine_linesIn (m : Metrics) (order : SampleOrder) :
    ∀ line ∈ m.linesIn order, IsOneLine line := by
  unfold linesIn
  simp only [List.forall_mem_append, List.forall_mem_singleton]
  exact ⟨⟨⟨⟨isOneLine_tallyIn (by decide) (by decide) _ _,
    isOneLine_tallyIn (by decide) (by decide) _ _⟩,
    isOneLine_histogram (by decide) (by decide) _⟩,
    isOneLine_gauge (by decide) (by decide) _⟩, by decide⟩

/-- The lines of an exposition are those that were written. -/
theorem linesOf_expositionIn (m : Metrics) (order : SampleOrder) :
    linesOf (m.expositionIn order) = m.linesIn order :=
  linesOf_join (m.isOneLine_linesIn order)

/-- The lines of what is handed out. -/
theorem linesOf_exposition (m : Metrics) : linesOf m.exposition = m.lines :=
  m.linesOf_expositionIn .declared

end Metrics

end Gatehouse
