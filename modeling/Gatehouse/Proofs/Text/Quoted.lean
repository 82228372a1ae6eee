import Gatehouse.Proofs.First
import Gatehouse.Text.Digit
import Gatehouse.Text.Quoted

/-! # What quoting keeps

    Quoting hides no difference between texts, and no text ends its own quotation.  Neither
    depends on which characters are shown as they are, so `quotedIn` leaves that open.

    A character is written in one of three ways (`Spelling`).  In each of them it can be told
    from what is written, whatever follows (`Spelling.firstChar?_append`), and no quote stands
    there without a backslash (`Spelling.isClosed`).  By induction along a text the whole text
    can be told (`quotedCharsIn_cancel`), and a reader that knows of nothing but backslashes finds
    its end (`upToQuote_of_isClosed`).

    Core Lean 4 only. -/

namespace Gatehouse.Text

/-! ## Control characters -/

/-- The characters of the general category Cc. -/
def IsControl (c : Char) : Prop := c.toNat < 0x20 ∨ 0x7f ≤ c.toNat ∧ c.toNat ≤ 0x9f

instance (c : Char) : Decidable (IsControl c) := inferInstanceAs (Decidable (_ ∨ _))

theorem not_isControl_of_all {w : List Char}
    (h : (w.all fun c => decide (¬ IsControl c)) = true) : ∀ c ∈ w, ¬ IsControl c :=
  fun c hc => of_decide_eq_true (List.all_eq_true.1 h c hc)

theorem not_isControl_of_isPlain {c : Char} (h : isPlain c = true) : ¬ IsControl c := by
  intro hcontrol
  have hsmall : c.toNat < 0xa0 := by
    unfold IsControl at hcontrol
    omega
  have hplain := isPlain_small ⟨c.toNat, hsmall⟩
  rw [Char.ofNat_toNat, h] at hplain
  have hbounds : 0x20 ≤ c.toNat ∧ c.toNat ≤ 0x7e := by simpa using hplain.symm
  unfold IsControl at hcontrol
  omega

/-! ## Hexadecimal numbers -/

/-- Induction along the digits of a number, the last one apart. -/
theorem hex_induction {p : Nat → List Char → Prop} (digit : ∀ d < 16, p d [d.digitChar])
    (append : ∀ n ds, ∀ d < 16, p n ds → p (n * 16 + d) (ds ++ [d.digitChar])) (n : Nat) :
    p n (hex n) := by
  induction n using Nat.strongRecOn with
  | ind n ih =>
    rcases Nat.lt_or_ge n 16 with hlt | hge
    · rw [hex, Nat.toDigits_of_lt_base hlt]
      exact digit n hlt
    · have hlower := ih (n / 16) (by omega)
      have hwhole := append (n / 16) _ (n % 16) (Nat.mod_lt n (by decide)) hlower
      rw [hex, Nat.toDigits_of_base_le (by decide) hge]
      rwa [Nat.div_add_mod'] at hwhole

theorem mem_hex {n : Nat} {c : Char} (h : c ∈ hex n) : ∃ d < 16, c = d.digitChar := by
  refine hex_induction (p := fun _ ds => ∀ c ∈ ds, ∃ d < 16, c = d.digitChar) ?_ ?_ n c h
  · intro d hd c hc
    exact ⟨d, hd, List.mem_singleton.1 hc⟩
  · intro _ ds d hd ih c hc
    rcases List.mem_append.1 hc with hc | hc
    · exact ih c hc
    · exact ⟨d, hd, List.mem_singleton.1 hc⟩

theorem ofDigits_append (base : Nat) (ds : List Char) (d : Char) :
    ofDigits base (ds ++ [d]) = ofDigits base ds * base + (digitValue? d).getD 0 := by
  unfold ofDigits
  rw [List.foldl_append, List.foldl_cons, List.foldl_nil]

/-- A number is read back from its digits. -/
theorem ofDigits_hex (n : Nat) : ofDigits 16 (hex n) = n := by
  have hdigit : ∀ d < 16, (digitValue? d.digitChar).getD 0 = d := by decide
  refine hex_induction (p := fun n ds => ofDigits 16 ds = n) ?_ ?_ n
  · intro d hd
    rw [ofDigits, List.foldl_cons, List.foldl_nil, hdigit d hd, Nat.zero_mul, Nat.zero_add]
  · intro n ds d hd ih
    rw [ofDigits_append, ih, hdigit d hd]

/-- No digit is a control or has a meaning of its own between quotes. -/
theorem ne_of_mem_hex {n : Nat} {c : Char} (h : c ∈ hex n) :
    c ≠ '"' ∧ c ≠ '\\' ∧ c ≠ '\x7d' ∧ ¬ IsControl c := by
  obtain ⟨d, hd, rfl⟩ := mem_hex h
  have hall : ∀ d < 16, d.digitChar ≠ '"' ∧ d.digitChar ≠ '\\' ∧ d.digitChar ≠ '\x7d' ∧
      ¬ IsControl d.digitChar := by decide
  exact hall d hd

/-! ## Where a quotation ends -/

/-- What stands before the first quote without a backslash to escape it, and what stands
    behind. -/
def upToQuote : List Char → Option (List Char × List Char)
  | []             => none
  | '"' :: r       => some ([], r)
  | '\\' :: c :: r => (upToQuote r).map fun p => ('\\' :: c :: p.1, p.2)
  | c :: r         => (upToQuote r).map fun p => (c :: p.1, p.2)

/-- A text without such a quote, and with no backslash left to escape what follows. -/
def IsClosed (w : List Char) : Prop :=
  ∀ s, upToQuote (w ++ s) = (upToQuote s).map fun p => (w ++ p.1, p.2)

theorem isClosed_nil : IsClosed [] := by
  intro s
  simp

theorem IsClosed.append {v w : List Char} (hv : IsClosed v) (hw : IsClosed w) :
    IsClosed (v ++ w) := by
  intro s
  rw [List.append_assoc, hv, hw, Option.map_map]
  simp only [Function.comp_def, List.append_assoc]

theorem isClosed_escape (c : Char) : IsClosed ['\\', c] := by
  intro s
  simp [upToQuote]

theorem isClosed_of_forall {w : List Char} (h : ∀ c ∈ w, c ≠ '"' ∧ c ≠ '\\') : IsClosed w := by
  induction w with
  | nil => exact isClosed_nil
  | cons c w ih =>
    obtain ⟨⟨hquote, hslash⟩, hw⟩ := List.forall_mem_cons.1 h
    have hc : IsClosed [c] := by
      intro s
      simp [upToQuote, hslash]
    exact hc.append (ih hw)

theorem isClosed_flatMap {f : Char → List Char} (h : ∀ c, IsClosed (f c)) (cs : List Char) :
    IsClosed (cs.flatMap f) := by
  induction cs with
  | nil => exact isClosed_nil
  | cons c cs ih =>
    rw [List.flatMap_cons]
    exact (h c).append ih

/-- A quote behind a closed text is the first one. -/
theorem upToQuote_of_isClosed {w : List Char} (h : IsClosed w) (rest : List Char) :
    upToQuote (w ++ '"' :: rest) = some (w, rest) := by
  rw [h]
  simp [upToQuote]

/-! ## Quoting with any class of plain characters -/

theorem toList_quotedIn (plain : Char → Bool) (s : String) :
    (quotedIn plain s).toList = ['"'] ++ (quotedCharsIn plain s ++ ['"']) := by
  rw [quotedIn, String.toList_ofList]
  rfl

/-- Characters that are written as a letter behind a backslash, with their letters. -/
def letters : List (Char × Char) :=
  [('"', '"'), ('\\', '\\'), ('\x00', '0'), ('\t', 't'), ('\n', 'n'), ('\r', 'r')]

/-- The ways in which a character can stand in a quoted text. -/
inductive Spelling (plain : Char → Bool) (c : Char) : List Char → Prop where
  | letter {l : Char} (h : (c, l) ∈ letters) : Spelling plain c ['\\', l]
  | number : Spelling plain c (['\\', 'u'] ++ ('\x7b' :: hex c.toNat ++ ['\x7d']))
  | plain (hplain : plain c = true) (hquote : c ≠ '"') (hslash : c ≠ '\\') : Spelling plain c [c]

theorem spelling_quotedCharIn (plain : Char → Bool) (c : Char) :
    Spelling plain c (quotedCharIn plain c) := by
  unfold quotedCharIn
  split
  case h_7 hquote hslash _ _ _ _ =>
    split
    · rename_i hplain
      exact .plain hplain hquote hslash
    · exact .number
  all_goals exact .letter (by decide)

/-- The character that a quoted text goes on with, and what is written behind it; none where the
    quotation ends. -/
def firstChar? : List Char → Option (Char × List Char)
  | []              => none
  | '"' :: _        => none
  | '\\' :: 'u' :: r =>
    some (Char.ofNat (ofDigits 16 (r.tail.takeWhile (· != '\x7d'))),
      (r.tail.dropWhile (· != '\x7d')).tail)
  | '\\' :: l :: r   => (letters.find? (·.2 == l)).map fun p => (p.1, r)
  | c :: r          => some (c, r)

namespace Spelling

variable {plain : Char → Bool} {c : Char} {w : List Char}

/-- Controls are always spelled out. -/
theorem not_isControl (h : Spelling plain c w) (hplain : ∀ c, plain c = true → ¬ IsControl c) :
    ∀ d ∈ w, ¬ IsControl d := by
  cases h with
  | letter hletter =>
    have hall : ∀ p ∈ letters, (['\\', p.2].all fun d => decide (¬ IsControl d)) = true := by decide
    exact not_isControl_of_all (hall _ hletter)
  | number =>
    intro d hd
    simp only [List.mem_append, List.mem_cons, List.not_mem_nil, or_false] at hd
    rcases hd with (rfl | rfl) | (rfl | hd) | rfl
    · decide
    · decide
    · decide
    · exact (ne_of_mem_hex hd).2.2.2
    · decide
  | plain hc _ _ =>
    intro d hd
    rw [List.mem_singleton.1 hd]
    exact hplain c hc

/-- The quote itself is never written without a backslash. -/
theorem isClosed (h : Spelling plain c w) : IsClosed w := by
  cases h with
  | letter _ => exact isClosed_escape _
  | number =>
    refine (isClosed_escape 'u').append (isClosed_of_forall ?_)
    intro d hd
    simp only [List.mem_append, List.mem_cons, List.not_mem_nil, or_false] at hd
    rcases hd with (rfl | hd) | rfl
    · decide
    · exact ⟨(ne_of_mem_hex hd).1, (ne_of_mem_hex hd).2.1⟩
    · decide
  | plain _ hquote hslash => exact isClosed_of_forall (by simp [hquote, hslash])

/-- The character is told, whatever follows. -/
theorem firstChar?_append (h : Spelling plain c w) (s : List Char) :
    firstChar? (w ++ s) = some (c, s) := by
  cases h with
  | @letter l hletter =>
    have hall : ∀ p ∈ letters, p.2 ≠ 'u' ∧ letters.find? (·.2 == p.2) = some p := by decide
    obtain ⟨hl, hfind⟩ : l ≠ 'u' ∧ letters.find? (·.2 == l) = some (c, l) := hall _ hletter
    simp [firstChar?, hfind]
  | number =>
    have hbrace : '\x7d' ∉ hex c.toNat := fun hmem => (ne_of_mem_hex hmem).2.2.1 rfl
    obtain ⟨htake, hdrop⟩ := cut_at hbrace s
    simp only [List.cons_append, List.append_assoc, List.nil_append, firstChar?, List.tail_cons,
      htake, hdrop, ofDigits_hex, Char.ofNat_toNat]
  | plain _ hquote hslash => simp [firstChar?, hslash]

end Spelling

/-! ## Texts -/

section
variable {plain : Char → Bool}

theorem isClosed_quotedCharsIn (s : String) : IsClosed (quotedCharsIn plain s) :=
  isClosed_flatMap (fun c => (spelling_quotedCharIn plain c).isClosed) s.toList

theorem not_isControl_quotedCharsIn (hplain : ∀ c, plain c = true → ¬ IsControl c) (s : String) :
    ∀ c ∈ quotedCharsIn plain s, ¬ IsControl c := by
  intro c hc
  obtain ⟨d, -, hd⟩ := List.mem_flatMap.1 hc
  exact (spelling_quotedCharIn plain d).not_isControl hplain c hd

theorem firstChar?_flatMap_cons (c : Char) (cs s : List Char) :
    firstChar? ((c :: cs).flatMap (quotedCharIn plain) ++ s) =
      some (c, cs.flatMap (quotedCharIn plain) ++ s) := by
  rw [List.flatMap_cons, List.append_assoc]
  exact (spelling_quotedCharIn plain c).firstChar?_append _

/-- Different texts are quoted differently, whatever stands behind them. -/
theorem quotedCharsIn_cancel {u v : String} {s t : List Char}
    (h : quotedCharsIn plain u ++ '"' :: s = quotedCharsIn plain v ++ '"' :: t) :
    u = v ∧ s = t := by
  have hcancel : ∀ cs ds : List Char, cs.flatMap (quotedCharIn plain) ++ '"' :: s =
      ds.flatMap (quotedCharIn plain) ++ '"' :: t → cs = ds ∧ s = t := by
    -- Both texts are read one character at a time, and they end at the same place.
    intro cs
    induction cs with
    | nil =>
      intro ds h
      cases ds with
      | nil => exact ⟨rfl, (List.cons.inj h).2⟩
      | cons d ds =>
        have hread := congrArg firstChar? h
        rw [firstChar?_flatMap_cons] at hread
        cases hread
    | cons c cs ih =>
      intro ds h
      have hread := congrArg firstChar? h
      rw [firstChar?_flatMap_cons] at hread
      cases ds with
      | nil => cases hread
      | cons d ds =>
        rw [firstChar?_flatMap_cons] at hread
        simp only [Option.some.injEq, Prod.mk.injEq] at hread
        obtain ⟨rfl, hrest⟩ := hread
        obtain ⟨rfl, hst⟩ := ih ds hrest
        exact ⟨rfl, hst⟩
  obtain ⟨htexts, hrest⟩ := hcancel u.toList v.toList h
  exact ⟨String.toList_inj.1 htexts, hrest⟩

end

end Gatehouse.Text
