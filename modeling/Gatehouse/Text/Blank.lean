/-! # Blank characters

    Key lines, key files and comments are cut at *blanks*: the characters of the Unicode
    property White_Space.  This module holds the class and the two ways of cutting a
    text at it.

    `trim` takes the blanks off both ends; `words` splits at every run of blanks and
    yields no empty word (`words_ne_nil`), and no word holds a blank
    (`not_isBlank_of_mem_words`).

    Core Lean 4 only. -/

namespace Gatehouse.Text

/-! ## The class -/

/-- The characters of the Unicode property White_Space. -/
def isBlank (c : Char) : Bool :=
  let n := c.toNat
  (0x09 ≤ n && n ≤ 0x0d) || n == 0x20 || n == 0x85 || n == 0xa0 || n == 0x1680
    || (0x2000 ≤ n && n ≤ 0x200a) || n == 0x2028 || n == 0x2029 || n == 0x202f
    || n == 0x205f || n == 0x3000

/-! ## Cutting at blanks -/

/-- Takes the blanks off the front. -/
def dropBlanks (s : List Char) : List Char := s.dropWhile isBlank

/-- Takes the blanks off both ends. -/
def trim (s : List Char) : List Char := (dropBlanks (dropBlanks s).reverse).reverse

/-- The longest front of `s` without a blank. -/
def firstWord (s : List Char) : List Char := s.takeWhile fun c => !isBlank c

/-- What follows `firstWord s`: nothing, or a text that starts with a blank. -/
def afterWord (s : List Char) : List Char := s.dropWhile fun c => !isBlank c

theorem firstWord_append_afterWord (s : List Char) : firstWord s ++ afterWord s = s :=
  List.takeWhile_append_dropWhile

theorem dropBlanks_length_le (s : List Char) : (dropBlanks s).length ≤ s.length :=
  (List.dropWhile_sublist _).length_le

theorem afterWord_length_le (s : List Char) : (afterWord s).length ≤ s.length :=
  (List.dropWhile_sublist _).length_le

/-- A text that starts with no blank loses at least that character to its first word. -/
theorem afterWord_cons_length_lt {c : Char} {s : List Char} (h : isBlank c = false) :
    (afterWord (c :: s)).length < (c :: s).length := by
  have : afterWord (c :: s) = afterWord s := by simp [afterWord, h]
  rw [this, List.length_cons]
  exact Nat.lt_succ_of_le (afterWord_length_le s)

/-- What is left after leading blanks starts with none. -/
theorem isBlank_head_dropBlanks {s t : List Char} {c : Char} (h : dropBlanks s = c :: t) :
    isBlank c = false := by
  induction s with
  | nil => simp [dropBlanks] at h
  | cons a s ih =>
    by_cases ha : isBlank a = true
    · exact ih (by simpa [dropBlanks, ha] using h)
    · have : a = c := by simp [dropBlanks, ha] at h; exact h.1
      subst this
      simpa using ha

/-- The words of `s`, after those already found (last first). -/
def wordsOnto (found : List (List Char)) (s : List Char) : List (List Char) :=
  match _h : dropBlanks s with
  | []     => found.reverse
  | c :: t => wordsOnto (firstWord (c :: t) :: found) (afterWord (c :: t))
termination_by s.length
decreasing_by
  have h₁ := afterWord_cons_length_lt (s := t) (isBlank_head_dropBlanks _h)
  have h₂ := dropBlanks_length_le s
  rw [_h] at h₂
  omega

/-- The words of a text: what stands between runs of blanks. -/
def words (s : List Char) : List (List Char) := wordsOnto [] s

/-- Words already found stay in front. -/
theorem wordsOnto_append (found more : List (List Char)) (s : List Char) :
    wordsOnto (found ++ more) s = more.reverse ++ wordsOnto found s := by
  fun_induction wordsOnto found s with
  | case1 found s h => rw [wordsOnto]; split <;> simp_all
  | case2 found s c t h ih =>
    rw [wordsOnto]
    split
    · simp_all
    · rename_i c' t' h'
      obtain ⟨rfl, rfl⟩ := List.cons.inj (h.symm.trans h')
      exact ih

/-- A text of blanks has no word. -/
theorem words_of_dropBlanks_nil {s : List Char} (h : dropBlanks s = []) : words s = [] := by
  rw [words, wordsOnto]
  split <;> simp_all

/-- The words of a text are its first word and the words of what follows. -/
theorem words_of_dropBlanks_cons {s t : List Char} {c : Char} (h : dropBlanks s = c :: t) :
    words s = firstWord (c :: t) :: words (afterWord (c :: t)) := by
  rw [words, wordsOnto]
  split
  · simp_all
  · rename_i c' t' h'
    obtain ⟨rfl, rfl⟩ := List.cons.inj (h.symm.trans h')
    simpa [words] using wordsOnto_append [] [firstWord (c :: t)] (afterWord (c :: t))

/-- Induction along the words of a text. -/
theorem words_induction {P : List Char → Prop} (s : List Char)
    (none : ∀ s, dropBlanks s = [] → P s)
    (some : ∀ s c t, dropBlanks s = c :: t → P (afterWord (c :: t)) → P s) : P s := by
  match h : dropBlanks s with
  | []     => exact none s h
  | c :: t => exact some s c t h (words_induction (afterWord (c :: t)) none some)
termination_by s.length
decreasing_by
  have h₁ := afterWord_cons_length_lt (s := t) (isBlank_head_dropBlanks h)
  have h₂ := dropBlanks_length_le s
  rw [h] at h₂
  omega

/-- No word is empty. -/
theorem words_ne_nil {s w : List Char} (h : w ∈ words s) : w ≠ [] := by
  induction s using words_induction with
  | none s hd => simp [words_of_dropBlanks_nil hd] at h
  | some s c t hd ih =>
    rw [words_of_dropBlanks_cons hd] at h
    rcases List.mem_cons.1 h with h | h
    · subst h
      simp [firstWord, isBlank_head_dropBlanks hd]
    · exact ih h

/-- No word holds a blank. -/
theorem not_isBlank_of_mem_words {s w : List Char} {c : Char} (h : w ∈ words s) (hc : c ∈ w) :
    isBlank c = false := by
  induction s using words_induction with
  | none s hd => simp [words_of_dropBlanks_nil hd] at h
  | some s d t hd ih =>
    rw [words_of_dropBlanks_cons hd] at h
    rcases List.mem_cons.1 h with h | h
    · subst h
      have hall := List.all_takeWhile (p := fun c => !isBlank c) (l := d :: t)
      simpa using List.all_eq_true.1 hall c hc
    · exact ih h

end Gatehouse.Text
