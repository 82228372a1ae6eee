import Gatehouse.Proofs.Text.Words
import Mathlib.Data.List.DropRight

/-! # Blanks around words

    The blanks at either end of a text are no part of its words, so the words of a text and
    of what trimming leaves of it are the same.  `trim_append` is about two texts put
    together: the blanks that go are those behind the words of the second.

    Of what trimming leaves, `trim_eq_nil_iff` and `head?_trim` tell how it starts, and
    `trim_append_blanks` that it does not depend on what stands behind.

    Blanks around words are all that a text is made of (`isFields_iff`), which tells what the
    words of a text are without telling how they are found. -/

namespace Gatehouse.Text

/-- Blanks alone make no word. -/
theorem words_blanks {b : List Char} (hb : ∀ c ∈ b, isBlank c = true) : words b = [] :=
  words_of_dropBlanks_nil (List.dropWhile_eq_nil_iff.2 hb)

/-- Trailing blanks are no part of any word. -/
theorem words_append_blanks (s : List Char) {b : List Char} (hb : ∀ c ∈ b, isBlank c = true) :
    words (s ++ b) = words s := by
  induction s using words_induction with
  | none s hs =>
    rw [words_blanks_append (List.dropWhile_eq_nil_iff.1 hs), words_of_dropBlanks_nil hs,
      words_blanks hb]
  | some s c t hs ih =>
    have hdrop : dropBlanks (s ++ b) = c :: (t ++ b) := by
      unfold dropBlanks at hs ⊢
      rw [List.dropWhile_append, hs]
      rfl
    -- The last word ends where the blanks begin, if it did not end before.
    have hstop : firstWord b = [] ∧ afterWord b = b := by
      cases b with
      | nil => exact ⟨rfl, rfl⟩
      | cons d b =>
        have hd := hb d List.mem_cons_self
        simp [firstWord, afterWord, hd]
    have hfirst : firstWord (c :: (t ++ b)) = firstWord (c :: t) := by
      unfold firstWord at hstop ⊢
      rw [← List.cons_append, List.takeWhile_append, hstop.1, List.append_nil]
      split
      · rename_i hwhole
        exact ((List.takeWhile_sublist _).eq_of_length hwhole).symm
      · rfl
    have hafter : afterWord (c :: (t ++ b)) = afterWord (c :: t) ++ b := by
      unfold afterWord at hstop ⊢
      rw [← List.cons_append, List.dropWhile_append, hstop.2]
      split
      · rename_i hempty
        rw [List.isEmpty_iff.1 hempty, List.nil_append]
      · rfl
    rw [words_of_dropBlanks_cons hdrop, hfirst, hafter, ih, ← words_of_dropBlanks_cons hs]

/-- The words of a text are those of the text without the blanks at its end. -/
theorem words_rdropWhile (s : List Char) : words (s.rdropWhile isBlank) = words s := by
  have hblank : ∀ c ∈ s.rtakeWhile isBlank, isBlank c = true := by
    intro c hc
    exact List.mem_rtakeWhile_imp hc
  rw [← words_append_blanks _ hblank, List.rdropWhile_append_rtakeWhile]

/-- Nothing is left in front of a trimmed text. -/
theorem dropBlanks_trim (s : List Char) : dropBlanks (trim s) = trim s := by
  have hprefix : trim s <+: dropBlanks s := List.rdropWhile_prefix isBlank (dropBlanks s)
  obtain ⟨b, hb⟩ := hprefix
  cases ht : trim s with
  | nil => rfl
  | cons c t =>
    rw [ht] at hb
    have hc : isBlank c = false := isBlank_head_dropBlanks hb.symm
    simp [dropBlanks, hc]

/-- If a text starts with no blank and its rest has words, only blanks behind these are taken
    off. -/
theorem trim_append {t s : List Char} (ht : dropBlanks (t ++ s) = t ++ s) (hs : words s ≠ []) :
    trim (t ++ s) = t ++ s.rdropWhile isBlank := by
  have hend : dropBlanks s.reverse ≠ [] := by
    intro hnil
    have hall := List.dropWhile_eq_nil_iff.1 hnil
    refine hs (words_blanks ?_)
    intro c hc
    exact hall c (List.mem_reverse.2 hc)
  unfold trim
  rw [ht, List.reverse_append]
  unfold dropBlanks at hend ⊢
  rw [List.dropWhile_append, if_neg (by simpa using hend), List.reverse_append,
    List.reverse_reverse]
  rfl

/-! ## What is left of a text -/

/-- Nothing is left of blanks, and of nothing else. -/
theorem trim_eq_nil_iff {s : List Char} : trim s = [] ↔ ∀ c ∈ s, isBlank c = true := by
  show (dropBlanks s).rdropWhile isBlank = [] ↔ _
  rw [List.rdropWhile_eq_nil_iff]
  constructor
  · intro h
    cases hs : dropBlanks s with
    | nil => exact List.dropWhile_eq_nil_iff.1 hs
    | cons c t =>
      have hc := h c (hs ▸ List.mem_cons_self)
      rw [isBlank_head_dropBlanks hs] at hc
      cases hc
  · intro h c hc
    exact h c ((List.dropWhile_sublist isBlank).subset hc)

/-- What is left starts with the first character that is no blank. -/
theorem head?_trim (s : List Char) : (trim s).head? = (dropBlanks s).head? := by
  obtain ⟨b, hb⟩ : trim s <+: dropBlanks s := List.rdropWhile_prefix isBlank (dropBlanks s)
  cases ht : trim s with
  | nil => rw [show dropBlanks s = [] from List.dropWhile_eq_nil_iff.2 (trim_eq_nil_iff.1 ht)]
  | cons c t => rw [← hb, ht, List.cons_append, List.head?_cons, List.head?_cons]

/-- Trailing blanks make no difference to it. -/
theorem trim_append_blanks (s : List Char) {b : List Char} (hb : ∀ c ∈ b, isBlank c = true) :
    trim (s ++ b) = trim s := by
  have hdrop : dropBlanks b = [] := List.dropWhile_eq_nil_iff.2 hb
  have hback : dropBlanks (b.reverse ++ (dropBlanks s).reverse) = dropBlanks (dropBlanks s).reverse :=
    List.dropWhile_append_of_pos fun c hc => hb c (List.mem_reverse.1 hc)
  have hfront : dropBlanks (s ++ b) = if (dropBlanks s).isEmpty then dropBlanks b
      else dropBlanks s ++ b := List.dropWhile_append
  unfold trim
  rw [hfront]
  split
  · rename_i hnil
    rw [hdrop, List.isEmpty_iff.1 hnil]
  · rw [List.reverse_append, hback]

@[simp] theorem trim_trim (s : List Char) : trim (trim s) = trim s := by
  show (dropBlanks (trim s)).rdropWhile isBlank = _
  rw [dropBlanks_trim]
  exact List.rdropWhile_idempotent isBlank _

theorem words_trim (s : List Char) : words (trim s) = words s := by
  show words ((dropBlanks s).rdropWhile isBlank) = words s
  rw [words_rdropWhile, words_dropBlanks]

/-! ## The fields of a text -/

/-- What it means for fields to be those of a text: they stand in it in this order, with at
    least one blank between two of them and nothing but blanks otherwise. -/
inductive IsFields : List Char → List (List Char) → Prop where
  | blanks {b : List Char} : (∀ c ∈ b, isBlank c = true) → IsFields b []
  | field {b w s : List Char} {ws : List (List Char)} :
      (∀ c ∈ b, isBlank c = true) → IsWord w → (∀ c ∈ s.head?, isBlank c = true) →
      IsFields s ws → IsFields (b ++ w ++ s) (w :: ws)

/-- No word goes on behind `firstWord`. -/
theorem isBlank_head?_afterWord {s : List Char} : ∀ c ∈ (afterWord s).head?, isBlank c = true := by
  intro c hc
  have hnot := List.head?_dropWhile_not (fun d => !isBlank d) s
  unfold afterWord at hc
  rw [Option.mem_def.1 hc] at hnot
  simpa using hnot

theorem isFields_words (s : List Char) : IsFields s (words s) := by
  induction s using words_induction with
  | none s hs =>
    rw [words_of_dropBlanks_nil hs]
    exact .blanks (List.dropWhile_eq_nil_iff.1 hs)
  | some s c t hs ih =>
    have hwords := words_of_dropBlanks_cons hs
    have hword : IsWord (firstWord (c :: t)) :=
      isWord_of_mem_words (hwords ▸ List.mem_cons_self)
    have hfront : ∀ d ∈ s.takeWhile isBlank, isBlank d = true := by
      intro d hd
      exact List.mem_takeWhile_imp hd
    have hfields := IsFields.field hfront hword isBlank_head?_afterWord ih
    have hsplit : s.takeWhile isBlank ++ firstWord (c :: t) ++ afterWord (c :: t) = s := by
      rw [List.append_assoc, firstWord_append_afterWord, ← hs]
      exact List.takeWhile_append_dropWhile
    rwa [hsplit, ← hwords] at hfields

/-- The fields of a text are its words, and no other list is that of its fields. -/
theorem isFields_iff {s : List Char} {ws : List (List Char)} : IsFields s ws ↔ words s = ws := by
  constructor
  · intro h
    induction h with
    | blanks hb => exact words_blanks hb
    | @field b w s ws hb hw hs _ ih =>
      rw [List.append_assoc, words_blanks_append hb, ← ih]
      cases s with
      | nil => rw [List.append_nil, words_word hw, words_of_dropBlanks_nil rfl]
      | cons c s =>
        have hc : isBlank c = true := hs c rfl
        have hgap : IsGap [c] := ⟨List.cons_ne_nil _ _, by simpa using hc⟩
        rw [words_append hw hc, ← words_blanks_append hgap.2 s]
        rfl
  · rintro rfl
    exact isFields_words s

end Gatehouse.Text
