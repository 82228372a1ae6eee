import Gatehouse.Text.Blank

/-! # Words put together

    Words with one space between them are the plainest text with these words:
    `words_unwords` takes it apart again, and `trim_unwords` finds nothing to take off.  Any
    other gap of blanks behind a word is as good as one space (`words_append_gap`).

    Core Lean 4 only. -/

namespace Gatehouse.Text

/-- What can be a word: something without a blank. -/
def IsWord (w : List Char) : Prop := w ≠ [] ∧ ∀ c ∈ w, isBlank c = false

theorem isWord_of_mem_words {s w : List Char} (h : w ∈ words s) : IsWord w :=
  ⟨words_ne_nil h, fun _ hc => not_isBlank_of_mem_words h hc⟩

/-- What can stand between words: at least one blank, and nothing else. -/
def IsGap (b : List Char) : Prop := b ≠ [] ∧ ∀ c ∈ b, isBlank c = true

/-- Words with one space between them. -/
def unwords (ws : List (List Char)) : List Char := (ws.intersperse [' ']).flatten

@[simp] theorem unwords_singleton (w : List Char) : unwords [w] = w := by simp [unwords]

@[simp] theorem unwords_cons_cons (v w : List Char) (ws : List (List Char)) :
    unwords (v :: w :: ws) = v ++ ' ' :: unwords (w :: ws) := by
  simp [unwords]

/-! ## Taking them apart -/

theorem firstWord_append {w : List Char} (h : IsWord w) {b : Char} (hb : isBlank b = true)
    (s : List Char) : firstWord (w ++ b :: s) = w := by
  unfold firstWord
  rw [List.takeWhile_append_of_pos]
  · simp [hb]
  · intro c hc
    simp [h.2 c hc]

theorem afterWord_append {w : List Char} (h : IsWord w) {b : Char} (hb : isBlank b = true)
    (s : List Char) : afterWord (w ++ b :: s) = b :: s := by
  unfold afterWord
  rw [List.dropWhile_append_of_pos]
  · simp [hb]
  · intro c hc
    simp [h.2 c hc]

/-- A text with a blank in it has its whole first word before that blank. -/
theorem firstWord_append_of_blank {t : List Char} (h : ∃ c ∈ t, isBlank c = true)
    (s : List Char) : firstWord (t ++ s) = firstWord t := by
  obtain ⟨c, hc, hblank⟩ := h
  unfold firstWord
  rw [List.takeWhile_append, if_neg]
  intro hwhole
  rw [← (List.takeWhile_sublist _).eq_of_length hwhole] at hc
  have hword := List.all_eq_true.1 List.all_takeWhile c hc
  simp [hblank] at hword

/-- Nothing is taken off a text that starts with a word. -/
theorem dropBlanks_append {w : List Char} (h : IsWord w) (s : List Char) :
    dropBlanks (w ++ s) = w ++ s := by
  cases w with
  | nil => exact absurd rfl h.1
  | cons c w =>
    have hc := h.2 c List.mem_cons_self
    simp [dropBlanks, hc]

/-- A text that starts with no blank starts with the first of its words. -/
theorem head_words {s w : List Char} {ws : List (List Char)} (hdrop : dropBlanks s = s)
    (h : words s = w :: ws) : w = firstWord s := by
  cases s with
  | nil =>
    rw [words_of_dropBlanks_nil rfl] at h
    cases h
  | cons c t =>
    rw [words_of_dropBlanks_cons hdrop] at h
    exact (List.cons.inj h).1.symm

/-- Leading blanks are no part of any word. -/
theorem words_dropBlanks (s : List Char) : words (dropBlanks s) = words s := by
  cases hs : dropBlanks s with
  | nil => rw [words_of_dropBlanks_nil hs, words_of_dropBlanks_nil rfl]
  | cons c t =>
    have hc := isBlank_head_dropBlanks hs
    have hself : dropBlanks (c :: t) = c :: t := by simp [dropBlanks, hc]
    rw [words_of_dropBlanks_cons hs, words_of_dropBlanks_cons hself]

theorem words_blanks_append {b : List Char} (hb : ∀ c ∈ b, isBlank c = true) (s : List Char) :
    words (b ++ s) = words s := by
  have hdrop : dropBlanks (b ++ s) = dropBlanks s := List.dropWhile_append_of_pos hb
  rw [← words_dropBlanks, hdrop, words_dropBlanks]

theorem words_word {w : List Char} (h : IsWord w) : words w = [w] := by
  have hdrop := dropBlanks_append h []
  rw [List.append_nil] at hdrop
  cases w with
  | nil => exact absurd rfl h.1
  | cons c w =>
    have hall : ∀ d ∈ c :: w, (!isBlank d) = true := fun d hd => by simp [h.2 d hd]
    have htake : (c :: w ++ []).takeWhile (fun d => !isBlank d) = c :: w ++ [] :=
      List.takeWhile_append_of_pos hall
    have hdropped : (c :: w ++ []).dropWhile (fun d => !isBlank d) = [] :=
      List.dropWhile_append_of_pos hall
    have hfirst : firstWord (c :: w) = c :: w := by simpa [firstWord] using htake
    have hafter : afterWord (c :: w) = [] := by simpa [afterWord] using hdropped
    rw [words_of_dropBlanks_cons hdrop, hfirst, hafter, words_of_dropBlanks_nil rfl]

/-- A word in front of a blank is cut off whole. -/
theorem words_append {w : List Char} (h : IsWord w) {b : Char} (hb : isBlank b = true)
    (s : List Char) : words (w ++ b :: s) = w :: words s := by
  have hdrop := dropBlanks_append h (b :: s)
  have hblank : words (b :: s) = words s := words_blanks_append (b := [b]) (by simpa using hb) s
  cases hw : w ++ b :: s with
  | nil => simp at hw
  | cons c t =>
    rw [words_of_dropBlanks_cons (hw ▸ hdrop), ← hw, firstWord_append h hb, afterWord_append h hb,
      hblank]

/-- So is a word in front of any number of blanks. -/
theorem words_append_gap {w b : List Char} (hw : IsWord w) (hb : IsGap b) (s : List Char) :
    words (w ++ b ++ s) = w :: words s := by
  cases b with
  | nil => exact absurd rfl hb.1
  | cons c b =>
    obtain ⟨hc, hrest⟩ := List.forall_mem_cons.1 hb.2
    rw [List.append_assoc, List.cons_append, words_append hw hc, words_blanks_append hrest]

/-- The words of words put together. -/
theorem words_unwords {ws : List (List Char)} (h : ∀ w ∈ ws, IsWord w) :
    words (unwords ws) = ws := by
  induction ws with
  | nil => exact words_of_dropBlanks_nil rfl
  | cons v ws ih =>
    have hv := h v List.mem_cons_self
    have hws := ih fun w hw => h w (List.mem_cons_of_mem _ hw)
    -- Only a word with another one after it has a space behind it.
    cases ws with
    | nil => rw [unwords_singleton, words_word hv]
    | cons w ws => rw [unwords_cons_cons, words_append hv (by decide), hws]

/-! ## Outer blanks -/

/-- Backwards, words put together end in the first of them and start with the last. -/
theorem exists_reverse_unwords {w : List Char} {ws : List (List Char)}
    (h : ∀ v ∈ w :: ws, IsWord v) :
    ∃ v s, IsWord v ∧ (unwords (w :: ws)).reverse = v ++ s := by
  induction ws generalizing w with
  | nil =>
    have hw := h w List.mem_cons_self
    refine ⟨w.reverse, [], ⟨?_, ?_⟩, ?_⟩
    · simpa using hw.1
    · intro c hc
      exact hw.2 c (List.mem_reverse.1 hc)
    · simp
  | cons u ws ih =>
    obtain ⟨v, s, hv, hs⟩ := ih fun v hv => h v (List.mem_cons_of_mem _ hv)
    refine ⟨v, s ++ ' ' :: w.reverse, hv, ?_⟩
    rw [unwords_cons_cons, List.reverse_append, List.reverse_cons, hs]
    simp

theorem trim_unwords {w : List Char} {ws : List (List Char)} (h : ∀ v ∈ w :: ws, IsWord v) :
    trim (unwords (w :: ws)) = unwords (w :: ws) := by
  have hfront : dropBlanks (unwords (w :: ws)) = unwords (w :: ws) := by
    have hw := h w List.mem_cons_self
    cases ws with
    | nil => simpa using dropBlanks_append hw []
    | cons u ws => rw [unwords_cons_cons, dropBlanks_append hw]
  obtain ⟨v, s, hv, hs⟩ := exists_reverse_unwords h
  unfold trim
  rw [hfront, hs, dropBlanks_append hv, ← hs, List.reverse_reverse]

end Gatehouse.Text
