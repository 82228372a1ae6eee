import Gatehouse.Decimal.Layout

/-! # The characters of floats

    However a float is laid out, it is written with digits, a point, the mark of an exponent and
    a sign, or in words.  In a sample of metrics none of them can be taken for anything else
    (`isFigure_of_mem_float`).

    Core Lean 4 only. -/

namespace Gatehouse.Decimal

/-! ## Digits -/

theorem isDigit_of_mem_decimal {n : Nat} {c : Char} (h : c ∈ Text.decimal n) : c.isDigit = true :=
  Nat.isDigit_of_mem_toDigits (by decide) (by decide) h

/-- The digits of a multiple are among those of the number. -/
theorem isDigit_of_mem_ofMultiple {n : Nat} {place : Int} {c : Char}
    (h : c ∈ (Digits.ofMultiple n place).digits) : c.isDigit = true := by
  unfold Digits.ofMultiple at h
  have hrest : c ∈ (Text.decimal n).reverse.dropWhile (· = '0') := List.mem_reverse.1 h
  have hall : c ∈ (Text.decimal n).reverse := (List.dropWhile_sublist _).subset hrest
  exact isDigit_of_mem_decimal (List.mem_reverse.1 hall)

theorem isDigit_of_mem_shortest {b : Binary} {tie : Tie} {c : Char}
    (h : c ∈ (shortest b tie).digits) : c.isDigit = true := by
  unfold shortest at h
  dsimp only at h
  generalize hfound : List.findSome? _ _ = found at h
  cases found with
  | none =>
    obtain rfl := List.mem_singleton.1 h
    rfl
  | some d =>
    obtain ⟨digits, -, hdigits⟩ := List.exists_of_findSome?_eq_some hfound
    obtain ⟨n, -, rfl⟩ := Option.map_eq_some_iff.1 hdigits
    exact isDigit_of_mem_ofMultiple h

/-! ## Layouts -/

/-- Is the character one with which samples of metrics write floats? -/
def IsFigure (c : Char) : Prop :=
  c.isDigit = true ∨ c ∈ ['.', 'e', '-', 'i', 'n', 'f', 'N', 'a']

instance (c : Char) : Decidable (IsFigure c) := inferInstanceAs (Decidable (_ ∨ _))

theorem isFigure_of_all {text : String}
    (h : (text.toList.all fun c => decide (IsFigure c)) = true) : ∀ c ∈ text.toList, IsFigure c :=
  fun c hc => of_decide_eq_true (List.all_eq_true.1 h c hc)

section layouts
variable {d : Digits} {c : Char}

theorem isFigure_zeros {n : Nat} (h : c ∈ List.replicate n '0') : IsFigure c := by
  rw [List.eq_of_mem_replicate h]
  decide

theorem isFigure_of_mem_positional (hd : ∀ c ∈ d.digits, c.isDigit = true)
    (h : c ∈ d.positional) : IsFigure c := by
  unfold Digits.positional at h
  split at h
  · rcases List.mem_cons.1 h with rfl | h
    · decide
    rcases List.mem_cons.1 h with rfl | h
    · decide
    rcases List.mem_append.1 h with h | h
    · exact isFigure_zeros h
    · exact .inl (hd c h)
  · rcases List.mem_append.1 h with h | h
    · rcases List.mem_append.1 h with h | h
      · exact .inl (hd c (List.mem_of_mem_take h))
      · exact isFigure_zeros h
    rcases List.mem_cons.1 h with rfl | h
    · decide
    split at h
    · obtain rfl := List.mem_singleton.1 h
      decide
    · exact .inl (hd c (List.mem_of_mem_drop h))

/-- With an exponent the same characters are used, as long as only a minus is written. -/
theorem isFigure_of_mem_scientific (hd : ∀ c ∈ d.digits, c.isDigit = true) {form : ExponentForm}
    (hplus : form.plus = false) (h : c ∈ d.scientific form) : IsFigure c := by
  unfold Digits.scientific at h
  simp only [hplus, Bool.false_eq_true, if_false, List.mem_append, List.mem_cons] at h
  rcases h with (((hfirst | hothers) | rfl | hsign) | hzeros) | hsize
  · exact .inl (hd c (List.mem_of_mem_take hfirst))
  · split at hothers
    · cases hothers
    · rcases List.mem_cons.1 hothers with rfl | hothers
      · decide
      · exact .inl (hd c (List.mem_of_mem_drop hothers))
  · decide
  · split at hsign
    · obtain rfl := List.mem_singleton.1 hsign
      decide
    · cases hsign
  · exact isFigure_zeros hzeros
  · exact .inl (isDigit_of_mem_decimal hsize)

theorem isFigure_of_mem_digits (hd : ∀ c ∈ d.digits, c.isDigit = true)
    (h : c ∈ Layout.metric.digits d) : IsFigure c := by
  unfold Layout.digits at h
  dsimp only [Layout.metric] at h
  split at h
  · exact isFigure_of_mem_positional hd h
  · exact isFigure_of_mem_scientific hd rfl h

end layouts

theorem isFigure_of_mem_float {x : Float} {c : Char} (h : c ∈ (Layout.metric.float x).toList) :
    IsFigure c := by
  have hsign : ∀ {text : String}, (∀ c ∈ text.toList, IsFigure c) →
      ∀ c ∈ ((if x.toBits >>> 63 = 0 then "" else "-") ++ text).toList, IsFigure c := by
    intro text htext c hc
    rw [String.toList_append] at hc
    rcases List.mem_append.1 hc with hc | hc
    · split at hc
      · cases hc
      · obtain rfl := List.mem_singleton.1 hc
        decide
    · exact htext c hc
  -- Not a number, infinite, zero, or digits.
  unfold Layout.float at h
  dsimp only at h
  split at h
  · exact isFigure_of_all (by decide) c h
  split at h
  · exact hsign (isFigure_of_all (by decide)) c h
  split at h
  · exact hsign (isFigure_of_all (by decide)) c h
  · refine hsign ?_ c h
    intro c hc
    rw [String.toList_ofList] at hc
    exact isFigure_of_mem_digits (fun c hc => isDigit_of_mem_shortest hc) hc

end Gatehouse.Decimal
