import Gatehouse.Proofs.Json.Spelling
import Gatehouse.Proofs.Json.Strings

/-! # Reading a string however it is spelled

    A string is read piece by piece.  If its pieces stand for characters, the reader has these
    characters at the closing quote (`readString_of_chars?`), and if they do not, it stops with a
    fault before (`readString_error_of_chars?`).  There is no third case, since half a pair of
    surrogates is never passed over.

    Core Lean 4 only. -/

namespace Gatehouse.Json

/-! ## Digits -/

theorem HexDigit.digitValue?_char (d : HexDigit) :
    d.char.toNat < 128 ∧ Text.digitValue? d.char = some d.value := by
  obtain ⟨value, upper⟩ := d
  revert value upper
  decide

theorem HexDigit.ofUInt8_char (d : HexDigit) : Char.ofUInt8 d.char.toUInt8 = d.char :=
  ofUInt8_toUInt8 d.digitValue?_char.1

/-- Four digits are read as the number of their code unit. -/
theorem CodeUnit.number?_digits (u : CodeUnit) :
    Text.number? 16 (u.digits.map HexDigit.char) = some u.number := by
  have hdigit (d : HexDigit) : Text.isDigitIn 16 d.char = true := by
    unfold Text.isDigitIn
    rw [d.digitValue?_char.2]
    exact decide_eq_true d.value.isLt
  have hvalue (d : HexDigit) : (Text.digitValue? d.char).getD 0 = d.value := by
    rw [d.digitValue?_char.2]
    rfl
  simp [Text.number?, Text.ofDigits, digits, number, hdigit, hvalue]

/-! ## Pieces that are read -/

namespace Piece

section read
variable (acc rest : List UInt8)

/-- What four digits are read as depends on whether the first half of a pair came before. -/
theorem readStringFrom_digits (u : CodeUnit) (high : Option Nat) :
    readStringFrom (.hex [] high) acc (u.digits.map (·.char.toUInt8) ++ rest) =
      match high with
      | none   =>
        if isLow u.number then .error (.before rest .loneSurrogate)
        else if isHigh u.number then readStringFrom (.secondBackslash u.number) acc rest
        else readStringFrom .plain (push u.number acc) rest
      | some h =>
        if isLow u.number then readStringFrom .plain (push (paired h u.number) acc) rest
        else .error (.before rest .loneSurrogate) := by
  have hnumber := u.number?_digits
  simp only [CodeUnit.digits, List.map_cons, List.map_nil] at hnumber
  simp only [CodeUnit.digits, List.map_cons, List.map_nil, List.cons_append, List.nil_append,
    readStringFrom, HexDigit.ofUInt8_char, List.length_cons, List.length_nil, List.reverse_cons,
    List.reverse_nil]
  cases high <;> simp [hnumber]

theorem readStringFrom_unit (u : CodeUnit) :
    readStringFrom .plain acc ((unit u).bytes ++ rest) =
      if isLow u.number then .error (.before rest .loneSurrogate)
      else if isHigh u.number then readStringFrom (.secondBackslash u.number) acc rest
      else readStringFrom .plain
        ((String.utf8EncodeChar (Char.ofNat u.number)).reverse ++ acc) rest := by
  show readStringFrom (.hex [] none) acc (u.digits.map (·.char.toUInt8) ++ rest) = _
  rw [readStringFrom_digits, push_eq]

/-- Behind the first half of a pair. -/
theorem readStringFrom_second (high : Nat) (u : CodeUnit) :
    readStringFrom (.secondBackslash high) acc ((unit u).bytes ++ rest) =
      if isLow u.number then readStringFrom .plain
        ((String.utf8EncodeChar (Char.ofNat (paired high u.number))).reverse ++ acc) rest
      else .error (.before rest .loneSurrogate) := by
  show readStringFrom (.hex [] (some high)) acc (u.digits.map (·.char.toUInt8) ++ rest) = _
  rw [readStringFrom_digits]
  simp only [push_eq]

theorem bytes_escape (e : Escape) : (escape e).bytes = encoded ['\\', e.letter] := by
  cases e <;> rfl

theorem readStringFrom_escape (e : Escape) :
    readStringFrom .plain acc ((escape e).bytes ++ rest) =
      readStringFrom .plain ((String.utf8EncodeChar e.char).reverse ++ acc) rest := by
  have hletter : e.letter.toNat < 128 := by
    cases e <;> decide
  have hchar : escapee? e.letter = some e.char := by
    cases e <;> rfl
  rw [bytes_escape]
  exact readStringFrom_letter hletter hchar acc rest

theorem isPlain_of_mem_bytes {c : Char} (h : c ≠ '"' ∧ c ≠ '\\' ∧ 0x20 ≤ c.toNat) {b : UInt8}
    (hb : b ∈ (plain c h).bytes) : IsPlain b :=
  isPlain_of_mem_utf8EncodeChar h.1 h.2.1 (Nat.not_lt.2 h.2.2) hb

theorem readStringFrom_plain {c : Char} (h : c ≠ '"' ∧ c ≠ '\\' ∧ 0x20 ≤ c.toNat) :
    readStringFrom .plain acc ((plain c h).bytes ++ rest) =
      readStringFrom .plain ((String.utf8EncodeChar c).reverse ++ acc) rest :=
  Json.readStringFrom_plain (fun _ hb => isPlain_of_mem_bytes h hb) acc rest

end read

/-- The reader gets over pieces to what stands behind them, with the characters they stand for.
    The induction is on the pieces as `chars?` takes them, both halves of a pair at once. -/
theorem readStringFrom_of_chars? {ps : List Piece} {cs : List Char} (h : chars? ps = some cs)
    (acc rest : List UInt8) :
    readStringFrom .plain acc (ps.flatMap bytes ++ rest) =
      readStringFrom .plain ((encoded cs).reverse ++ acc) rest := by
  fun_induction chars? ps generalizing cs acc with
  | case1 =>
    obtain rfl := Option.some.inj h
    rfl
  | case2 c hc ps ih =>
    obtain ⟨cs, hcs, rfl⟩ := Option.map_eq_some_iff.1 h
    rw [List.flatMap_cons, List.append_assoc, readStringFrom_plain, ih hcs, encoded_cons,
      List.reverse_append, List.append_assoc]
  | case3 e ps ih =>
    obtain ⟨cs, hcs, rfl⟩ := Option.map_eq_some_iff.1 h
    rw [List.flatMap_cons, List.append_assoc, readStringFrom_escape, ih hcs, encoded_cons,
      List.reverse_append, List.append_assoc]
  | case4 u ps hlow => cases h
  | case5 u hlow hhigh v ps hsecond ih =>
    obtain ⟨cs, hcs, rfl⟩ := Option.map_eq_some_iff.1 h
    rw [List.flatMap_cons, List.flatMap_cons, List.append_assoc, List.append_assoc,
      readStringFrom_unit, if_neg hlow, if_pos hhigh, readStringFrom_second, if_pos hsecond,
      ih hcs, encoded_cons, List.reverse_append, List.append_assoc]
  | case6 u hlow hhigh v ps hsecond => cases h
  | case7 u ps hlow hhigh hother => cases h
  | case8 u ps hlow hhigh ih =>
    obtain ⟨cs, hcs, rfl⟩ := Option.map_eq_some_iff.1 h
    rw [List.flatMap_cons, List.append_assoc, readStringFrom_unit, if_neg hlow, if_neg hhigh,
      ih hcs, encoded_cons, List.reverse_append, List.append_assoc]

/-! ## Pieces that say nothing -/

/-- Behind the first half of a pair nothing is taken but another code unit. -/
theorem readStringFrom_half_error {ps : List Piece} (hps : ∀ u rest, ps ≠ unit u :: rest)
    (high : Nat) (acc rest : List UInt8) :
    ∃ e, readStringFrom (.secondBackslash high) acc (ps.flatMap bytes ++ 0x22 :: rest) =
      .error e := by
  match ps with
  | [] => exact ⟨_, rfl⟩
  | unit u :: ps => exact absurd rfl (hps u ps)
  | escape e :: ps => cases e <;> exact ⟨_, rfl⟩
  | plain c hc :: ps =>
    -- The first byte of a plain character is no backslash.
    cases hbytes : (plain c hc).bytes with
    | nil =>
      have hpos : 0 < (plain c hc).bytes.length := by
        show 0 < (String.utf8EncodeChar c).length
        rw [String.length_utf8EncodeChar]
        exact Char.utf8Size_pos c
      rw [hbytes] at hpos
      cases hpos
    | cons b bs =>
      have hplain : IsPlain b := isPlain_of_mem_bytes hc (hbytes ▸ List.mem_cons_self)
      rw [List.flatMap_cons, hbytes, List.cons_append, List.cons_append, readStringFrom,
        if_neg hplain.2.1]
      exact ⟨_, rfl⟩

/-- If pieces stand for no characters, the reader stops before the quote. -/
theorem readStringFrom_error_of_chars? {ps : List Piece} (h : chars? ps = none)
    (acc rest : List UInt8) :
    ∃ e, readStringFrom .plain acc (ps.flatMap bytes ++ 0x22 :: rest) = .error e := by
  fun_induction chars? ps generalizing acc with
  | case1 => cases h
  | case2 c hc ps ih =>
    rw [List.flatMap_cons, List.append_assoc, readStringFrom_plain]
    exact ih (Option.map_eq_none_iff.1 h) _
  | case3 e ps ih =>
    rw [List.flatMap_cons, List.append_assoc, readStringFrom_escape]
    exact ih (Option.map_eq_none_iff.1 h) _
  | case4 u ps hlow =>
    rw [List.flatMap_cons, List.append_assoc, readStringFrom_unit, if_pos hlow]
    exact ⟨_, rfl⟩
  | case5 u hlow hhigh v ps hsecond ih =>
    rw [List.flatMap_cons, List.flatMap_cons, List.append_assoc, List.append_assoc,
      readStringFrom_unit, if_neg hlow, if_pos hhigh, readStringFrom_second, if_pos hsecond]
    exact ih (Option.map_eq_none_iff.1 h) _
  | case6 u hlow hhigh v ps hsecond =>
    rw [List.flatMap_cons, List.flatMap_cons, List.append_assoc, List.append_assoc,
      readStringFrom_unit, if_neg hlow, if_pos hhigh, readStringFrom_second, if_neg hsecond]
    exact ⟨_, rfl⟩
  | case7 u ps hlow hhigh hother =>
    rw [List.flatMap_cons, List.append_assoc, readStringFrom_unit, if_neg hlow, if_pos hhigh]
    exact readStringFrom_half_error hother u.number acc rest
  | case8 u ps hlow hhigh ih =>
    rw [List.flatMap_cons, List.append_assoc, readStringFrom_unit, if_neg hlow, if_neg hhigh]
    exact ih (Option.map_eq_none_iff.1 h) _

/-! ## Strings -/

/-- A string is read as the characters that its pieces stand for. -/
theorem readString_of_chars? {ps : List Piece} {cs : List Char} (h : chars? ps = some cs)
    (rest : List UInt8) :
    readString (ps.flatMap bytes ++ 0x22 :: rest) = .ok (String.ofList cs, rest) := by
  have hquote : Char.ofUInt8 0x22 = '"' := rfl
  have hbytes : Text.ofBytes? (encoded cs) = some (String.ofList cs) := by
    rw [encoded, ← Text.bytes_ofList, Text.ofBytes?_bytes]
  unfold readString
  rw [readStringFrom_of_chars? h, List.append_nil]
  simp only [readStringFrom, hquote, List.reverse_reverse, hbytes]

theorem readString_error_of_chars? {ps : List Piece} (h : chars? ps = none) (rest : List UInt8) :
    ∃ e, readString (ps.flatMap bytes ++ 0x22 :: rest) = .error e :=
  readStringFrom_error_of_chars? h [] rest

end Piece

end Gatehouse.Json
