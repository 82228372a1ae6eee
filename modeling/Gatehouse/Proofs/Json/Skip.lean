import Gatehouse.Json.Skip
import Gatehouse.Proofs.Json.Pieces

/-! # Passing over a value

    A value that nobody asked for is passed over whole, however it is written and however deep
    it is nested (`value_bytes`).  The machine that does it takes one byte at a time; here it is
    followed through the gaps, strings and numbers of a spelled value, and through brackets by
    induction on the value.

    A number ends only where the next byte cannot go on with it.  What can stand behind a value
    in a text never can.

    Core Lean 4 only. -/

namespace Gatehouse.Json

/-- No number goes on with this. -/
def EndsNumber (s : List UInt8) : Prop :=
  ∀ b ∈ s.head?, isDigit b = false ∧ b ≠ 0x2e ∧ b ≠ 0x65 ∧ b ≠ 0x45

theorem endsNumber_cons {b : UInt8}
    (h : isDigit b = false ∧ b ≠ 0x2e ∧ b ≠ 0x65 ∧ b ≠ 0x45) (s : List UInt8) :
    EndsNumber (b :: s) := by
  intro c hc
  rwa [← Option.some.inj hc]

theorem eq_of_isSpace {b : UInt8} (h : isSpace b = true) :
    b = 0x20 ∨ b = 0x0a ∨ b = 0x09 ∨ b = 0x0d := by
  simpa [isSpace, or_assoc] using h

theorem EndsNumber.gap {s : List UInt8} (h : EndsNumber s) (g : Gap) :
    EndsNumber (g.bytes ++ s) := by
  obtain ⟨bytes, blank⟩ := g
  cases bytes with
  | nil => exact h
  | cons b bytes =>
    have hb := eq_of_isSpace (blank b List.mem_cons_self)
    apply endsNumber_cons
    rcases hb with rfl | rfl | rfl | rfl <;> decide

theorem ofUInt8_ne {b c : UInt8} (h : b ≠ c) : Char.ofUInt8 b ≠ Char.ofUInt8 c :=
  fun heq => h (UInt8.toNat_inj.1 (congrArg Char.toNat heq))

theorem ne_of_isDigit {d c : UInt8} (hd : isDigit d = true) (hc : isDigit c = false) : d ≠ c := by
  rintro rfl
  rw [hc] at hd
  cases hd

theorem isSpace_of_isDigit {d : UInt8} (h : isDigit d = true) : isSpace d = false := by
  simp [isSpace, ne_of_isDigit (c := 0x20) h rfl, ne_of_isDigit (c := 0x0a) h rfl,
    ne_of_isDigit (c := 0x09) h rfl, ne_of_isDigit (c := 0x0d) h rfl]

/-- A number starts with its sign or with a digit. -/
theorem Numeral.exists_bytes_eq_cons (n : Numeral) :
    ∃ b bs, n.bytes = b :: bs ∧ (b = 0x2d ∨ isDigit b = true) := by
  obtain ⟨negative, ⟨whole, hdigits, hne⟩, hzero, fraction, exponent⟩ := n
  cases negative with
  | true => exact ⟨0x2d, _, rfl, .inl rfl⟩
  | false =>
    cases whole with
    | nil => exact absurd rfl hne
    | cons d whole => exact ⟨d, _, rfl, .inr (hdigits d List.mem_cons_self)⟩

/-- How a value starts: with no blank and no bracket that closes, and with a quote if it is a
    string. -/
theorem Spelled.exists_bytes_eq_cons (v : Spelled) :
    ∃ b bs, v.bytes = b :: bs ∧ isSpace b = false ∧ b ≠ 0x5d ∧
      (b = 0x22 → ∃ ps, v = .string ps) := by
  have hquote {b : UInt8} {v : Spelled} (hb : b ≠ 0x22) (h : b = 0x22) : ∃ ps, v = .string ps :=
    absurd h hb
  cases v with
  | null => exact ⟨0x6e, _, rfl, by decide, by decide, hquote (by decide)⟩
  | boolean b =>
    cases b
    · exact ⟨0x66, _, rfl, by decide, by decide, hquote (by decide)⟩
    · exact ⟨0x74, _, rfl, by decide, by decide, hquote (by decide)⟩
  | number n =>
    obtain ⟨b, bs, hbytes, rfl | hdigit⟩ := n.exists_bytes_eq_cons
    · exact ⟨0x2d, bs, hbytes, by decide, by decide, hquote (by decide)⟩
    · exact ⟨b, bs, hbytes, isSpace_of_isDigit hdigit, ne_of_isDigit hdigit rfl,
        hquote (ne_of_isDigit hdigit rfl)⟩
  | string ps => exact ⟨0x22, _, rfl, by decide, by decide, fun _ => ⟨ps, rfl⟩⟩
  | array gap es => exact ⟨0x5b, _, rfl, by decide, by decide, hquote (by decide)⟩
  | object gap ms => exact ⟨0x7b, _, rfl, by decide, by decide, hquote (by decide)⟩

namespace Skip

variable {place : Place} {brackets : List Bracket}

/-! ## Steps -/

/-- What is left to be done after a value. -/
def resume : List Bracket → List UInt8 → Except Fault (List UInt8)
  | [], rest      => .ok rest
  | b :: bs, rest => run .after (b :: bs) rest

theorem run_take {b : UInt8} {next : Place} {bs : List Bracket}
    (h : step place brackets b = .take next bs) (rest : List UInt8) :
    run place brackets (b :: rest) = run next bs rest := by
  rw [run, h]

theorem run_ended {b : UInt8} {bs : List Bracket} (h : step place brackets b = ended bs)
    (rest : List UInt8) : run place brackets (b :: rest) = resume bs rest := by
  rw [run, h]
  cases bs <;> rfl

/-- Blanks are passed over where each of them is. -/
theorem run_gap (h : ∀ b, isSpace b = true → step place brackets b = .take place brackets)
    (g : Gap) (rest : List UInt8) :
    run place brackets (g.bytes ++ rest) = run place brackets rest := by
  obtain ⟨bytes, blank⟩ := g
  induction bytes with
  | nil => rfl
  | cons b bytes ih =>
    rw [List.forall_mem_cons] at blank
    rw [List.cons_append, run_take (h b blank.1)]
    exact ih blank.2

section gaps
variable (brackets) (g : Gap) (rest : List UInt8)

theorem run_value_gap : run .value brackets (g.bytes ++ rest) = run .value brackets rest :=
  run_gap (fun b hb => by simp [step, hb]) g rest

theorem run_opened_gap : run .opened brackets (g.bytes ++ rest) = run .opened brackets rest :=
  run_gap (fun b hb => by simp [step, hb]) g rest

theorem run_key_gap : run .key brackets (g.bytes ++ rest) = run .key brackets rest :=
  run_gap (fun b hb => by simp [step, hb]) g rest

theorem run_colon_gap : run .colon brackets (g.bytes ++ rest) = run .colon brackets rest := by
  apply run_gap
  intro b hb
  rcases eq_of_isSpace hb with rfl | rfl | rfl | rfl <;> rfl

theorem run_after_gap (b : Bracket) :
    run .after (b :: brackets) (g.bytes ++ rest) = run .after (b :: brackets) rest := by
  apply run_gap
  intro c hc
  cases b <;> rcases eq_of_isSpace hc with rfl | rfl | rfl | rfl <;> rfl

end gaps

/-! ## Strings -/

section strings
variable (brackets) (role : Role) (rest : List UInt8)

theorem run_plain {bs : List UInt8} (h : ∀ b ∈ bs, IsPlain b) :
    run (.string role) brackets (bs ++ rest) = run (.string role) brackets rest := by
  induction bs with
  | nil => rfl
  | cons b bs ih =>
    rw [List.forall_mem_cons] at h
    obtain ⟨⟨hquote, hbackslash, hspace⟩, hbs⟩ := h
    have hstep : step (.string role) brackets b = .take (.string role) brackets := by
      simp only [step, if_neg hspace]
    rw [List.cons_append, run_take hstep, ih hbs]

/-- A piece is passed over, whether it says anything or not. -/
theorem run_piece (p : Piece) :
    run (.string role) brackets (p.bytes ++ rest) = run (.string role) brackets rest := by
  cases p with
  | plain c h => exact run_plain brackets role rest fun b hb => Piece.isPlain_of_mem_bytes h hb
  | escape e => cases e <;> rfl
  | unit u =>
    have hhex (d : HexDigit) : Text.isDigitIn 16 (Char.ofUInt8 d.char.toUInt8) = true := by
      rw [d.ofUInt8_char]
      unfold Text.isDigitIn
      rw [d.digitValue?_char.2]
      exact decide_eq_true d.value.isLt
    show run (.hex role []) brackets (u.digits.map (·.char.toUInt8) ++ rest) = _
    simp [CodeUnit.digits, run, step, hhex]

/-- What comes after the quote that closes a string. -/
def closed : Role → Except Fault (List UInt8)
  | .value => resume brackets rest
  | .key   => run .colon brackets rest

theorem run_pieces (ps : List Piece) :
    run (.string role) brackets (ps.flatMap Piece.bytes ++ 0x22 :: rest) =
      closed brackets rest role := by
  -- The induction is on the pieces; the quote behind the last one tells a key from a value.
  induction ps with
  | nil =>
    cases role with
    | value =>
      have hquote : step (.string .value) brackets 0x22 = ended brackets := rfl
      exact run_ended hquote rest
    | key =>
      have hquote : step (.string .key) brackets 0x22 = .take .colon brackets := rfl
      exact run_take hquote rest
  | cons p ps ih => rw [List.flatMap_cons, List.append_assoc, run_piece, ih]

end strings

/-! ## Numbers -/

section numbers
variable (brackets) {rest : List UInt8}

/-- The number may end with the figure. -/
def IsLast (f : Figure) : Prop := f = .zero ∨ f = .whole ∨ f = .fraction ∨ f = .power

/-- Where a number may end it does, if the next byte does not go on with it. -/
theorem run_endsNumber {f : Figure} (hf : IsLast f) (hrest : EndsNumber rest) :
    run (.number f) brackets rest = resume brackets rest := by
  cases rest with
  | nil =>
    rcases hf with rfl | rfl | rfl | rfl <;> cases brackets <;> rfl
  | cons b rest =>
    -- What goes on with a number is a digit, a point or the letter of an exponent.
    obtain ⟨hdigit, hpoint, hsmall, hcapital⟩ := hrest b rfl
    have hpoint' : Char.ofUInt8 b ≠ '.' := ofUInt8_ne hpoint
    have hsmall' : Char.ofUInt8 b ≠ 'e' := ofUInt8_ne hsmall
    have hcapital' : Char.ofUInt8 b ≠ 'E' := ofUInt8_ne hcapital
    have hstep : step (.number f) brackets b = follow brackets b := by
      show figure brackets b f = _
      rcases hf with rfl | rfl | rfl | rfl <;>
        simp [figure, hdigit, hpoint', hsmall', hcapital']
    rw [run, hstep]
    cases brackets <;> rfl

/-- Further digits are passed over. -/
theorem run_digits {f : Figure} (hf : f = .whole ∨ f = .fraction ∨ f = .power)
    {ds : List UInt8} (h : ∀ b ∈ ds, isDigit b = true) :
    run (.number f) brackets (ds ++ rest) = run (.number f) brackets rest := by
  induction ds with
  | nil => rfl
  | cons d ds ih =>
    rw [List.forall_mem_cons] at h
    have hstep : step (.number f) brackets d = .take (.number f) brackets := by
      show figure brackets d f = _
      rcases hf with rfl | rfl | rfl <;> simp [figure, h.1]
    rw [List.cons_append, run_take hstep, ih h.2]

theorem run_fraction {f : Figure} (hf : f = .zero ∨ f = .whole) (ds : Figures) :
    run (.number f) brackets (0x2e :: ds.bytes ++ rest) =
      run (.number .fraction) brackets rest := by
  obtain ⟨bytes, hdigits, hne⟩ := ds
  have hpoint : step (.number f) brackets 0x2e = .take (.number .point) brackets := by
    rcases hf with rfl | rfl <;> rfl
  cases bytes with
  | nil => exact absurd rfl hne
  | cons d ds =>
    rw [List.forall_mem_cons] at hdigits
    have hfirst : step (.number .point) brackets d = .take (.number .fraction) brackets := by
      show figure brackets d .point = _
      simp [figure, hdigits.1]
    show run (.number f) brackets (0x2e :: (d :: (ds ++ rest))) = _
    rw [run_take hpoint, run_take hfirst, run_digits brackets (by simp) hdigits.2]

theorem run_exponent {f : Figure} (hf : f = .zero ∨ f = .whole ∨ f = .fraction) (e : Exponent) :
    run (.number f) brackets (e.bytes ++ rest) = run (.number .power) brackets rest := by
  obtain ⟨letter, hletter, sign, hsign, ⟨bytes, hdigits, hne⟩⟩ := e
  have hstart : step (.number f) brackets letter = .take (.number .exponent) brackets := by
    rcases hf with rfl | rfl | rfl <;> rcases hletter with rfl | rfl <;> rfl
  cases bytes with
  | nil => exact absurd rfl hne
  | cons d ds =>
    rw [List.forall_mem_cons] at hdigits
    cases sign with
    | none =>
      have hfirst : step (.number .exponent) brackets d = .take (.number .power) brackets := by
        -- A digit is no sign.
        have hplus : Char.ofUInt8 d ≠ '+' := ofUInt8_ne (ne_of_isDigit (c := 0x2b) hdigits.1 rfl)
        have hminus : Char.ofUInt8 d ≠ '-' := ofUInt8_ne (ne_of_isDigit (c := 0x2d) hdigits.1 rfl)
        show figure brackets d .exponent = _
        simp [figure, hplus, hminus, hdigits.1]
      show run (.number f) brackets (letter :: (d :: (ds ++ rest))) = _
      rw [run_take hstart, run_take hfirst, run_digits brackets (by simp) hdigits.2]
    | some b =>
      have hsecond : step (.number .exponent) brackets b = .take (.number .sign) brackets := by
        rcases hsign b rfl with rfl | rfl <;> rfl
      have hfirst : step (.number .sign) brackets d = .take (.number .power) brackets := by
        show figure brackets d .sign = _
        simp [figure, hdigits.1]
      show run (.number f) brackets (letter :: (b :: (d :: (ds ++ rest)))) = _
      rw [run_take hstart, run_take hsecond, run_take hfirst,
        run_digits brackets (by simp) hdigits.2]

/-- A digit that is not zero begins a number. -/
theorem step_value_digit {d : UInt8} (hd : isDigit d = true) (hzero : d ≠ 0x30) :
    step .value brackets d = .take (.number .whole) brackets := by
  have hother : ∀ c : UInt8, isDigit c = false → Char.ofUInt8 d ≠ Char.ofUInt8 c :=
    fun c hc => ofUInt8_ne (ne_of_isDigit hd hc)
  show (if isSpace d = true then _ else begin brackets d) = _
  rw [isSpace_of_isDigit hd, if_neg Bool.false_ne_true]
  unfold begin
  split
  · exact absurd ‹_› (hother 0x6e rfl)
  · exact absurd ‹_› (hother 0x74 rfl)
  · exact absurd ‹_› (hother 0x66 rfl)
  · exact absurd ‹_› (hother 0x22 rfl)
  · exact absurd ‹_› (hother 0x5b rfl)
  · exact absurd ‹_› (hother 0x7b rfl)
  · exact absurd ‹_› (hother 0x2d rfl)
  · exact absurd ‹_› (ofUInt8_ne hzero)
  · rw [if_pos hd]

/-- The sign and the digits in front: nothing but a lone zero ends with the figure `.zero`. -/
theorem run_whole (n : Numeral) :
    ∃ f, (f = .zero ∨ f = .whole) ∧ ∀ rest,
      run .value brackets ((if n.negative then [0x2d] else []) ++ n.whole.bytes ++ rest) =
        run (.number f) brackets rest := by
  obtain ⟨negative, ⟨whole, hdigits, hne⟩, hzero, -, -⟩ := n
  cases whole with
  | nil => exact absurd rfl hne
  | cons d ds =>
    rw [List.forall_mem_cons] at hdigits
    -- The first digit stands at the start or after the sign, and does the same at both.
    have hstart (f : Figure) (hf : step .value brackets d = .take (.number f) brackets)
        (hf' : step (.number .first) brackets d = .take (.number f) brackets) (rest : List UInt8) :
        run .value brackets ((if negative then [0x2d] else []) ++ (d :: ds) ++ rest) =
          run (.number f) brackets (ds ++ rest) := by
      cases negative with
      | false => exact run_take hf _
      | true =>
        have hsign : step .value brackets 0x2d = .take (.number .first) brackets := rfl
        exact (run_take hsign _).trans (run_take hf' _)
    by_cases hd : d = 0x30
    · subst hd
      obtain rfl : ds = [] := (List.cons.inj (hzero rfl)).2
      exact ⟨.zero, .inl rfl, hstart .zero rfl rfl⟩
    · have hc : Char.ofUInt8 d ≠ '0' := ofUInt8_ne hd
      have hsigned : step (.number .first) brackets d = .take (.number .whole) brackets := by
        show figure brackets d .first = _
        simp [figure, hc, hdigits.1]
      refine ⟨.whole, .inr rfl, ?_⟩
      intro rest
      exact (hstart .whole (step_value_digit brackets hdigits.1 hd) hsigned rest).trans
        (run_digits brackets (.inl rfl) hdigits.2)

theorem run_number (n : Numeral) (hrest : EndsNumber rest) :
    run .value brackets (n.bytes ++ rest) = resume brackets rest := by
  obtain ⟨f, hf, hwhole⟩ := run_whole brackets n
  have hfraction : ∃ g, (g = .zero ∨ g = .whole ∨ g = .fraction) ∧ ∀ s,
      run (.number f) brackets ((n.fraction.elim [] fun ds => 0x2e :: ds.bytes) ++ s) =
        run (.number g) brackets s := by
    cases n.fraction with
    | none => exact ⟨f, hf.imp_right .inl, fun _ => rfl⟩
    | some ds => exact ⟨.fraction, .inr (.inr rfl), fun _ => run_fraction brackets hf ds⟩
  obtain ⟨g, hg, hfraction⟩ := hfraction
  have hexponent : ∃ last, IsLast last ∧ ∀ s,
      run (.number g) brackets (n.exponent.elim [] Exponent.bytes ++ s) =
        run (.number last) brackets s := by
    cases n.exponent with
    | none => exact ⟨g, hg.imp_right (Or.imp_right .inl), fun _ => rfl⟩
    | some e => exact ⟨.power, .inr (.inr (.inr rfl)), fun _ => run_exponent brackets hg e⟩
  obtain ⟨last, hlast, hexponent⟩ := hexponent
  unfold Numeral.bytes
  rw [List.append_assoc, List.append_assoc, hwhole, hfraction, hexponent,
    run_endsNumber brackets hlast hrest]

end numbers

/-! ## Values -/

section members
variable (brackets) (rest : List UInt8)

/-- After an opening bracket a value begins as everywhere else. -/
theorem run_opened_value (v : Spelled) :
    run .opened (.list :: brackets) (v.bytes ++ rest) =
      run .value (.list :: brackets) (v.bytes ++ rest) := by
  obtain ⟨b, bs, hbytes, hspace, hclosing, -⟩ := v.exists_bytes_eq_cons
  have hopened : step .opened (.list :: brackets) b = step .value (.list :: brackets) b := by
    have hc : Char.ofUInt8 b ≠ ']' := ofUInt8_ne hclosing
    simp [step, open?, hspace, hc]
  rw [hbytes, List.cons_append, run, run, hopened]

/-- The key of a member is passed over up to its value, after a comma or a brace. -/
theorem run_label {place : Place} (hplace : place = .key ∨ place = .opened) (l : Label) :
    run place (.object :: brackets) (l.bytes ++ rest) =
      run .value (.object :: brackets) rest := by
  have hgap : ∀ s, run place (.object :: brackets) (l.before.bytes ++ 0x22 :: s) =
      run (.string .key) (.object :: brackets) s := by
    intro s
    rcases hplace with rfl | rfl
    · rw [run_key_gap, run_take rfl]
    · rw [run_opened_gap, run_take rfl]
  simp only [Label.bytes, quotedBytes, List.append_assoc, List.cons_append, List.nil_append]
  rw [hgap, run_pieces, closed, run_colon_gap, run_take rfl, run_value_gap]

end members

theorem endsNumber_elements (es : List (Gap × Spelled × Gap)) (rest : List UInt8) :
    EndsNumber (Spelled.elementsBytes es ++ 0x5d :: rest) := by
  cases es <;> exact endsNumber_cons (by decide) _

theorem endsNumber_members (ms : List (Label × Spelled × Gap)) (rest : List UInt8) :
    EndsNumber (Spelled.membersBytes ms ++ 0x7d :: rest) := by
  cases ms <;> exact endsNumber_cons (by decide) _

mutual

/-- A value is passed over, whatever brackets are open around it. -/
theorem run_value (v : Spelled) (brackets : List Bracket) {rest : List UInt8}
    (hrest : EndsNumber rest) : run .value brackets (v.bytes ++ rest) = resume brackets rest := by
  cases v with
  | null =>
    -- A word is taken letter by letter, and its last letter ends it.
    have hlast : step (.word ['l']) brackets 0x6c = ended brackets := rfl
    exact run_ended hlast rest
  | boolean b =>
    have hlast : step (.word ['e']) brackets 0x65 = ended brackets := rfl
    cases b
    · exact run_ended hlast rest
    · exact run_ended hlast rest
  | number n => exact run_number brackets n hrest
  | string ps =>
    simp only [Spelled.bytes, quotedBytes, List.append_assoc, List.cons_append, List.nil_append]
    rw [run_take rfl, run_pieces, closed]
  | array gap es =>
    simp only [Spelled.bytes, List.append_assoc, List.cons_append, List.nil_append]
    rw [run_take rfl, run_opened_gap]
    match es with
    | [] => exact run_ended rfl rest
    | (g, v, h) :: es =>
      -- The first element comes without a comma, so it begins where the array was opened.
      have hends := (endsNumber_elements es rest).gap h
      simp only [Spelled.elementsBytes, List.cons_append, List.tail_cons, List.append_assoc]
      rw [run_opened_gap, run_opened_value, run_value v _ hends, resume, run_after_gap,
        run_elements es brackets rest]
  | object gap ms =>
    simp only [Spelled.bytes, List.append_assoc, List.cons_append, List.nil_append]
    rw [run_take rfl, run_opened_gap]
    match ms with
    | [] => exact run_ended rfl rest
    | (l, v, h) :: ms =>
      have hends := (endsNumber_members ms rest).gap h
      simp only [Spelled.membersBytes, List.cons_append, List.tail_cons, List.append_assoc]
      rw [run_label _ _ (.inr rfl), run_value v _ hends, resume, run_after_gap,
        run_members ms brackets rest]

/-- The further elements of a list, with the bracket that closes it. -/
theorem run_elements (es : List (Gap × Spelled × Gap)) (brackets : List Bracket)
    (rest : List UInt8) :
    run .after (.list :: brackets) (Spelled.elementsBytes es ++ 0x5d :: rest) =
      resume brackets rest := by
  match es with
  | [] => exact run_ended rfl rest
  | (g, v, h) :: es =>
    have hends := (endsNumber_elements es rest).gap h
    simp only [Spelled.elementsBytes, List.append_assoc, List.cons_append]
    rw [run_take rfl, run_value_gap, run_value v _ hends, resume, run_after_gap,
      run_elements es brackets rest]

/-- The further members of an object, with the brace that closes it. -/
theorem run_members (ms : List (Label × Spelled × Gap)) (brackets : List Bracket)
    (rest : List UInt8) :
    run .after (.object :: brackets) (Spelled.membersBytes ms ++ 0x7d :: rest) =
      resume brackets rest := by
  match ms with
  | [] => exact run_ended rfl rest
  | (l, v, h) :: ms =>
    have hends := (endsNumber_members ms rest).gap h
    simp only [Spelled.membersBytes, List.append_assoc, List.cons_append]
    rw [run_take rfl, run_label _ _ (.inl rfl), run_value v _ hends, resume, run_after_gap,
      run_members ms brackets rest]

end

/-- One value is passed over, with the blanks before it. -/
theorem value_bytes (g : Gap) (v : Spelled) {rest : List UInt8} (hrest : EndsNumber rest) :
    value (g.bytes ++ v.bytes ++ rest) = .ok rest := by
  unfold value
  rw [List.append_assoc, run_value_gap, run_value v [] hrest, resume]

end Skip

end Gatehouse.Json
