/-! # The first of a list that is so

    Checks that go through a list end at the first element that fails, and searches at the
    first that fits.  `IsFirst` says which element this is without going through the list: it
    fits, and none of those before it does.  A cut at a character is made at the first one too
    (`cut_at`).

    Core Lean 4 only. -/

namespace Gatehouse

variable {α : Type} {p : α → Prop} {x y : α} {xs : List α}

/-- Is the element one with the property, with none before it? -/
def IsFirst (p : α → Prop) (xs : List α) (x : α) : Prop :=
  ∃ before after, xs = before ++ x :: after ∧ (∀ y ∈ before, ¬ p y) ∧ p x

theorem IsFirst.holds (h : IsFirst p xs x) : p x := by
  obtain ⟨-, -, -, -, hx⟩ := h
  exact hx

theorem IsFirst.mem (h : IsFirst p xs x) : x ∈ xs := by
  obtain ⟨before, after, rfl, -, -⟩ := h
  exact List.mem_append_right _ List.mem_cons_self

@[simp] theorem not_isFirst_nil : ¬ IsFirst p [] x := fun h => List.not_mem_nil h.mem

/-- If the head has the property, it is the first. -/
theorem isFirst_cons_of_pos (hx : p x) : IsFirst p (x :: xs) y ↔ y = x := by
  constructor
  · rintro ⟨before, after, hsplit, hbefore, -⟩
    cases before with
    | nil => exact (List.cons.inj hsplit).1.symm
    | cons b before =>
      obtain ⟨rfl, -⟩ := List.cons.inj hsplit
      exact absurd hx (hbefore x List.mem_cons_self)
  · rintro rfl
    exact ⟨[], xs, rfl, by simp, hx⟩

/-- If it has not, it is passed over. -/
theorem isFirst_cons_of_neg (hx : ¬ p x) : IsFirst p (x :: xs) y ↔ IsFirst p xs y := by
  constructor
  · rintro ⟨before, after, hsplit, hbefore, hy⟩
    cases before with
    | nil =>
      rw [(List.cons.inj hsplit).1] at hx
      exact absurd hy hx
    | cons b before =>
      exact ⟨before, after, (List.cons.inj hsplit).2,
        fun z hz => hbefore z (List.mem_cons_of_mem _ hz), hy⟩
  · rintro ⟨before, after, rfl, hbefore, hy⟩
    exact ⟨x :: before, after, rfl, List.forall_mem_cons.2 ⟨hx, hbefore⟩, hy⟩

/-- There is a first one if there is one at all. -/
theorem exists_isFirst_iff : (∃ x, IsFirst p xs x) ↔ ∃ x ∈ xs, p x := by
  constructor
  · rintro ⟨x, h⟩
    exact ⟨x, h.mem, h.holds⟩
  · rintro ⟨x, hmem, hx⟩
    induction xs with
    | nil => cases hmem
    | cons y xs ih =>
      by_cases hy : p y
      · exact ⟨y, (isFirst_cons_of_pos hy).2 rfl⟩
      · have hne : x ≠ y := fun heq => hy (heq ▸ hx)
        obtain ⟨z, hz⟩ := ih ((List.mem_cons.1 hmem).resolve_left hne)
        exact ⟨z, (isFirst_cons_of_neg hy).2 hz⟩

/-- It is the one that is found. -/
theorem find?_eq_some_iff_isFirst {q : α → Bool} :
    xs.find? q = some x ↔ IsFirst (fun y => q y = true) xs x := by
  rw [List.find?_eq_some_iff_append]
  simp only [Bool.not_eq_true', IsFirst, Bool.not_eq_true]
  constructor
  · rintro ⟨hx, before, after, hsplit, hbefore⟩
    exact ⟨before, after, hsplit, hbefore, hx⟩
  · rintro ⟨before, after, hsplit, hbefore, hx⟩
    exact ⟨hx, before, after, hsplit, hbefore⟩

/-! ## Cuts -/

/-- What stands before the first occurrence of a character, and what from there on. -/
theorem cut_at {c : Char} {before : List Char} (h : c ∉ before) (after : List Char) :
    (before ++ c :: after).takeWhile (· != c) = before ∧
      (before ++ c :: after).dropWhile (· != c) = c :: after := by
  have hall : ∀ d ∈ before, (d != c) = true := by
    intro d hd
    have hne : d ≠ c := fun heq => h (heq ▸ hd)
    simpa using hne
  constructor
  · rw [List.takeWhile_append_of_pos hall]
    simp
  · rw [List.dropWhile_append_of_pos hall]
    simp

/-- Without an occurrence nothing is cut off. -/
theorem cut_at_none {c : Char} {s : List Char} (h : c ∉ s) :
    s.takeWhile (· != c) = s ∧ s.dropWhile (· != c) = [] := by
  have hall : ∀ d ∈ s, (d != c) = true := by
    intro d hd
    have hne : d ≠ c := fun heq => h (heq ▸ hd)
    simpa using hne
  have htake : (s ++ []).takeWhile (· != c) = s ++ [] := List.takeWhile_append_of_pos hall
  have hdrop : (s ++ []).dropWhile (· != c) = [] := List.dropWhile_append_of_pos hall
  rw [List.append_nil] at htake hdrop
  exact ⟨htake, hdrop⟩

end Gatehouse
