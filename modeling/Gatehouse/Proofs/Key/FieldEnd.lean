import Gatehouse.Proofs.Key.Options
import Gatehouse.Text.Utf8

/-! # Where an options field ends

    An options field goes as far as the first blank outside of quotes.  Which blank this is can
    be told by going along the line and keeping account of two things: whether a quote is open,
    and whether the next character is an ordinary one because a backslash stands before it
    (`Quotes`).

    The scan keeps the same account by its place (`place_next`), so it passes every blank that
    stands in an open quote (`afterOptions_append`) and stops at the first that does not.
    `skipOptions_cuts` says what is left of the line then, and when nothing is. -/

namespace Gatehouse

/-! ## Cuts between bytes -/

namespace Text

/-- The text from a byte on.  There is none if the byte is not the first of a character. -/
def fromByte? (s : String) (i : Nat) : Option String :=
  if i ≤ (bytes s).length then ofBytes? ((bytes s).drop i) else none

section
variable {s : String} {front after : List Char}

/-- A text can be cut wherever its characters can be parted. -/
theorem fromByte?_of_toList_eq (h : s.toList = front ++ after) :
    fromByte? s (bytes (String.ofList front)).length = some (String.ofList after) := by
  have hparts : s = String.ofList front ++ String.ofList after := by
    rw [← String.ofList_append, ← h, String.ofList_toList]
  have hle : (bytes (String.ofList front)).length ≤ (bytes s).length := by
    rw [hparts, bytes_append, List.length_append]
    exact Nat.le_add_right _ _
  unfold fromByte?
  rw [if_pos hle, hparts, bytes_append, List.drop_left, ofBytes?_bytes]

/-- What a text ends in can be cut off it by its length. -/
theorem fromByte?_of_suffix (h : after <:+ s.toList) :
    fromByte? s ((bytes s).length - (bytes (String.ofList after)).length) =
      some (String.ofList after) := by
  obtain ⟨front, hfront⟩ := h
  have hlength : (bytes s).length =
      (bytes (String.ofList front)).length + (bytes (String.ofList after)).length := by
    rw [← List.length_append, ← bytes_append, ← String.ofList_append, hfront, String.ofList_toList]
  rw [hlength, Nat.add_sub_cancel]
  exact fromByte?_of_toList_eq hfront.symm

end

end Text

namespace AuthorizedKey

open Text

/-! ## Keeping account of quotes -/

/-- What the characters of a line that have been passed say about the next one. -/
structure Quotes where
  /-- A quote has been opened and not been closed. -/
  isOpen    : Bool
  /-- The next character is an ordinary one, whatever it is. -/
  isEscaped : Bool
  deriving DecidableEq, Repr

namespace Quotes

/-- The account at the start of a line. -/
def closed : Quotes := ⟨false, false⟩

/-- A quote opens or closes, unless it is escaped.  A backslash escapes the character behind it
    in an open quote only. -/
def next (q : Quotes) (c : Char) : Quotes :=
  if q.isEscaped then { q with isEscaped := false }
  else if c = '"' then { q with isOpen := !q.isOpen }
  else if c = '\\' ∧ q.isOpen = true then { q with isEscaped := true }
  else q

/-- The account behind some more characters. -/
def after (q : Quotes) (s : List Char) : Quotes := s.foldl next q

/-- Characters are escaped in open quotes only. -/
def IsSound (q : Quotes) : Prop := q.isEscaped = true → q.isOpen = true

theorem isSound_closed : closed.IsSound := fun h => by cases h

/-- Where the scan stands. -/
def place (q : Quotes) : Place :=
  if q.isOpen = false then .outside else if q.isEscaped = true then .escaped else .quoted

theorem place_eq_outside_iff {q : Quotes} : q.place = .outside ↔ q.isOpen = false := by
  unfold place
  cases q.isOpen <;> cases q.isEscaped <;> simp

/-- One character changes the account as it changes the place of the scan. -/
theorem place_next {q : Quotes} (h : q.IsSound) (c : Char) :
    (q.next c).IsSound ∧ (q.next c).place = q.place.next c := by
  obtain ⟨isOpen, isEscaped⟩ := q
  cases isEscaped with
  | true =>
    obtain rfl : isOpen = true := h rfl
    exact ⟨fun _ => rfl, rfl⟩
  | false =>
    cases isOpen with
    | false =>
      by_cases hquote : c = '"'
      · simp [IsSound, next, place, Place.next, hquote]
      · simp [IsSound, next, place, Place.next, hquote]
    | true =>
      by_cases hquote : c = '"'
      · simp [IsSound, next, place, Place.next, hquote]
      · by_cases hslash : c = '\\'
        · simp [IsSound, next, place, Place.next, hslash]
        · simp [IsSound, next, place, Place.next, hquote, hslash]

/-- Does every blank of a text stand in an open quote? -/
def CoversBlanks (q : Quotes) (s : List Char) : Prop :=
  ∀ front c rest, s = front ++ c :: rest → isBlank c = true → (q.after front).isOpen = true

theorem coversBlanks_nil (q : Quotes) : q.CoversBlanks [] := by
  intro front c rest h
  simp at h

theorem coversBlanks_cons_iff {q : Quotes} {c : Char} {s : List Char} :
    q.CoversBlanks (c :: s) ↔
      (isBlank c = true → q.isOpen = true) ∧ (q.next c).CoversBlanks s := by
  constructor
  · intro h
    refine ⟨h [] c s rfl, ?_⟩
    rintro front d rest rfl
    exact h (c :: front) d rest rfl
  · rintro ⟨hc, hs⟩ front d rest hsplit
    cases front with
    | nil =>
      obtain ⟨rfl, -⟩ := List.cons.inj hsplit
      exact hc
    | cons e front =>
      obtain ⟨rfl, rfl⟩ := List.cons.inj hsplit
      exact hs front d rest rfl

end Quotes

/-- Does the options field of a line end at a character that stands behind this front?  The
    character is a blank outside of quotes, and it is the first one. -/
structure EndsField (front : List Char) (c : Char) : Prop where
  covered : Quotes.closed.CoversBlanks front
  outside : (Quotes.closed.after front).isOpen = false
  blank   : isBlank c = true

/-- A line has such a character, unless all its blanks stand in open quotes. -/
theorem coversBlanks_or_endsField (s : List Char) :
    Quotes.closed.CoversBlanks s ∨ ∃ front c rest, EndsField front c ∧ s = front ++ c :: rest := by
  -- The induction carries the statement for whatever account there is at the start.
  have hscan : ∀ q : Quotes, q.CoversBlanks s ∨ ∃ front c rest, q.CoversBlanks front ∧
      (q.after front).isOpen = false ∧ isBlank c = true ∧ s = front ++ c :: rest := by
    induction s with
    | nil => exact fun q => .inl q.coversBlanks_nil
    | cons c s ih =>
      intro q
      by_cases hc : isBlank c = true ∧ q.isOpen = false
      · exact .inr ⟨[], c, s, q.coversBlanks_nil, hc.2, hc.1, rfl⟩
      · have hpass : isBlank c = true → q.isOpen = true := by
          intro hblank
          by_contra hopen
          exact hc ⟨hblank, Bool.eq_false_iff.2 hopen⟩
        rcases ih (q.next c) with hs | ⟨front, d, rest, hfront, hopen, hd, rfl⟩
        · exact .inl (Quotes.coversBlanks_cons_iff.2 ⟨hpass, hs⟩)
        · exact .inr ⟨c :: front, d, rest, Quotes.coversBlanks_cons_iff.2 ⟨hpass, hfront⟩,
            hopen, hd, rfl⟩
  rcases hscan .closed with h | ⟨front, c, rest, hcovered, houtside, hblank, hs⟩
  · exact .inl h
  · exact .inr ⟨front, c, rest, ⟨hcovered, houtside, hblank⟩, hs⟩

/-! ## The scan -/

/-- Blanks in open quotes are passed, and so is all else. -/
theorem afterOptions_append {q : Quotes} (hq : q.IsSound) {front : List Char}
    (h : q.CoversBlanks front) (s : List Char) :
    afterOptions q.place (front ++ s) = afterOptions (q.after front).place s := by
  induction front generalizing q with
  | nil => rfl
  | cons c front ih =>
    obtain ⟨hc, hfront⟩ := Quotes.coversBlanks_cons_iff.1 h
    obtain ⟨hsound, hplace⟩ := Quotes.place_next hq c
    have hpass : ¬ (q.place = .outside ∧ isBlank c = true) := by
      rintro ⟨houtside, hblank⟩
      rw [Quotes.place_eq_outside_iff, hc hblank] at houtside
      cases houtside
    rw [List.cons_append, afterOptions, if_neg hpass, ← hplace]
    exact ih hsound hfront

/-- Of a line whose blanks all stand in open quotes nothing is left. -/
theorem skipOptions_of_coversBlanks {s : List Char} (h : Quotes.closed.CoversBlanks s) :
    skipOptions s = none := by
  have hscan := afterOptions_append Quotes.isSound_closed h []
  rw [List.append_nil] at hscan
  exact hscan

/-- The scan stops where the field ends, and goes on over blanks only. -/
theorem skipOptions_of_endsField {front : List Char} {c : Char} (h : EndsField front c)
    (s : List Char) :
    skipOptions (front ++ c :: s) = if dropBlanks s = [] then none else some (dropBlanks s) := by
  have hscan := afterOptions_append Quotes.isSound_closed h.covered (c :: s)
  have hstop : (Quotes.closed.after front).place = .outside ∧ isBlank c = true :=
    ⟨Quotes.place_eq_outside_iff.2 h.outside, h.blank⟩
  rw [afterOptions, if_pos hstop] at hscan
  simp only [List.isEmpty_iff] at hscan
  exact hscan

/-! ## What is left of a line -/

section
variable {s rest : List Char}

/-- Something is left if the field ends and not only blanks follow. -/
theorem skipOptions_eq_some_iff_endsField :
    skipOptions s = some rest ↔
      ∃ front c blanks, EndsField front c ∧ (∀ b ∈ blanks, isBlank b = true) ∧
        (∃ d r, rest = d :: r ∧ isBlank d = false) ∧ s = front ++ c :: (blanks ++ rest) := by
  constructor
  · intro h
    rcases coversBlanks_or_endsField s with hcovered | ⟨front, c, t, hend, rfl⟩
    · rw [skipOptions_of_coversBlanks hcovered] at h
      cases h
    · rw [skipOptions_of_endsField hend] at h
      split at h
      · cases h
      · rename_i hne
        obtain rfl := Option.some.inj h
        obtain ⟨d, r, hd⟩ := List.exists_cons_of_ne_nil hne
        have hsplit : t.takeWhile isBlank ++ dropBlanks t = t := List.takeWhile_append_dropWhile
        refine ⟨front, c, t.takeWhile isBlank, hend, fun b hb => List.mem_takeWhile_imp hb,
          ⟨d, r, hd, isBlank_head_dropBlanks hd⟩, ?_⟩
        rw [hsplit]
  · rintro ⟨front, c, blanks, hend, hblanks, ⟨d, r, rfl, hd⟩, rfl⟩
    have hdrop : dropBlanks (blanks ++ d :: r) = d :: r := by
      unfold dropBlanks
      rw [List.dropWhile_append_of_pos hblanks, List.dropWhile_cons_of_neg]
      simp [hd]
    rw [skipOptions_of_endsField hend, hdrop, if_neg (List.cons_ne_nil d r)]

/-- Nothing is left if the field does not end, or if only blanks follow. -/
theorem skipOptions_eq_none_iff :
    skipOptions s = none ↔
      Quotes.closed.CoversBlanks s ∨
        ∃ front c blanks, EndsField front c ∧ (∀ b ∈ blanks, isBlank b = true) ∧
          s = front ++ c :: blanks := by
  constructor
  · intro h
    rcases coversBlanks_or_endsField s with hcovered | ⟨front, c, t, hend, rfl⟩
    · exact .inl hcovered
    · rw [skipOptions_of_endsField hend] at h
      split at h
      · rename_i hnil
        exact .inr ⟨front, c, t, hend, List.dropWhile_eq_nil_iff.1 hnil, rfl⟩
      · cases h
  · rintro (hcovered | ⟨front, c, blanks, hend, hblanks, rfl⟩)
    · exact skipOptions_of_coversBlanks hcovered
    · have hdrop : dropBlanks blanks = [] := List.dropWhile_eq_nil_iff.2 hblanks
      rw [skipOptions_of_endsField hend, if_pos hdrop]

theorem suffix_of_skipOptions (h : skipOptions s = some rest) : rest <:+ s := by
  obtain ⟨front, c, blanks, -, -, -, rfl⟩ := skipOptions_eq_some_iff_endsField.1 h
  refine ⟨front ++ c :: blanks, ?_⟩
  simp only [List.append_assoc, List.cons_append]

/-- What is added to a line does not move the end of its options field. -/
theorem skipOptions_append_more (h : skipOptions s = some rest) (more : List Char) :
    skipOptions (s ++ more) = some (rest ++ more) := by
  obtain ⟨front, c, blanks, hend, hblanks, ⟨d, r, rfl, hd⟩, rfl⟩ :=
    skipOptions_eq_some_iff_endsField.1 h
  refine skipOptions_eq_some_iff_endsField.2
    ⟨front, c, blanks, hend, hblanks, ⟨d, r ++ more, rfl, hd⟩, ?_⟩
  simp only [List.append_assoc, List.cons_append]

end

/-- The options field of a line ends at the first blank outside of quotes.
    * What is left is what stands behind this blank and the blanks that follow it, if anything
      does.
    * Nothing is left exactly if no blank stands outside of quotes, or if only blanks follow the
      first that does.
    * The line can be cut at each of its characters, so also at that blank and at what is left,
      however many bytes the characters have.
    * Text that is added to the line is added to what is left. -/
theorem skipOptions_cuts (line : String) :
    (∀ rest, skipOptions line.toList = some rest ↔
      ∃ front c blanks, EndsField front c ∧ (∀ b ∈ blanks, isBlank b = true) ∧
        (∃ d r, rest = d :: r ∧ isBlank d = false) ∧
        line.toList = front ++ c :: (blanks ++ rest)) ∧
    (skipOptions line.toList = none ↔
      (∀ front c after, line.toList = front ++ c :: after → isBlank c = true →
        (Quotes.closed.after front).isOpen = true) ∨
      ∃ front c blanks, EndsField front c ∧ (∀ b ∈ blanks, isBlank b = true) ∧
        line.toList = front ++ c :: blanks) ∧
    (∀ front c after, line.toList = front ++ c :: after →
      fromByte? line (bytes (String.ofList front)).length = some (String.ofList (c :: after))) ∧
    (∀ rest, skipOptions line.toList = some rest →
      rest <:+ line.toList ∧
        fromByte? line ((bytes line).length - (bytes (String.ofList rest)).length) =
          some (String.ofList rest)) ∧
    ∀ rest more, skipOptions line.toList = some rest →
      skipOptions (line.toList ++ more) = some (rest ++ more) := by
  refine ⟨fun rest => skipOptions_eq_some_iff_endsField, skipOptions_eq_none_iff, ?_, ?_, ?_⟩
  · intro front c after hline
    exact fromByte?_of_toList_eq hline
  · intro rest hrest
    have hsuffix := suffix_of_skipOptions hrest
    exact ⟨hsuffix, fromByte?_of_suffix hsuffix⟩
  · intro rest more hrest
    exact skipOptions_append_more hrest more

/-- A quote is opened again in the field, another one is escaped, and the field ends at a blank
    of three bytes. -/
example : skipOptions "a=\"b \\\" c\"\"\\\\ \"d\\\u3000\tssh-rsa \"x".toList =
    some "ssh-rsa \"x".toList := by decide +kernel

/-- A backslash at the end of a quote that is never closed. -/
example : skipOptions "command=\"a b \\".toList = none := by decide +kernel

end AuthorizedKey

end Gatehouse
