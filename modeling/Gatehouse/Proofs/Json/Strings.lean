import Gatehouse.Json.Scalar
import Gatehouse.Json.Writer
import Gatehouse.Proofs.Text.Utf8

/-! # Reading back a written string

    A string is written character by character and read byte by byte.  For each way in
    which a character is written there is a lemma that takes the reader over its bytes:
    plain bytes, a letter behind a backslash, four hexadecimal digits.  From these
    `readString_escaped` follows by induction on the characters.

    Core Lean 4 only. -/

namespace Gatehouse.Json

/-- The bytes of characters in a row. -/
def encoded (cs : List Char) : List UInt8 := cs.flatMap String.utf8EncodeChar

@[simp] theorem encoded_nil : encoded [] = [] := rfl

@[simp] theorem encoded_cons (c : Char) (cs : List Char) :
    encoded (c :: cs) = String.utf8EncodeChar c ++ encoded cs := rfl

@[simp] theorem encoded_append (cs ds : List Char) :
    encoded (cs ++ ds) = encoded cs ++ encoded ds := by
  unfold encoded
  rw [List.flatMap_append]

/-! ## Plain bytes -/

/-- A byte that stands for itself in a string. -/
def IsPlain (b : UInt8) : Prop := Char.ofUInt8 b ≠ '"' ∧ Char.ofUInt8 b ≠ '\\' ∧ ¬ b < 0x20

theorem readStringFrom_plain_cons {b : UInt8} (h : IsPlain b) (acc rest : List UInt8) :
    readStringFrom .plain acc (b :: rest) = readStringFrom .plain (b :: acc) rest := by
  obtain ⟨hquote, hbackslash, hspace⟩ := h
  rw [readStringFrom]
  split
  · rename_i hc
    exact absurd hc hquote
  · rename_i hc
    exact absurd hc hbackslash
  · rw [if_neg hspace]

theorem readStringFrom_plain {bs : List UInt8} (h : ∀ b ∈ bs, IsPlain b)
    (acc rest : List UInt8) :
    readStringFrom .plain acc (bs ++ rest) = readStringFrom .plain (bs.reverse ++ acc) rest := by
  induction bs generalizing acc with
  | nil => rfl
  | cons b bs ih =>
    have hb : IsPlain b := h b List.mem_cons_self
    have hbs : ∀ b ∈ bs, IsPlain b := fun b hb => h b (List.mem_cons_of_mem _ hb)
    rw [List.cons_append, readStringFrom_plain_cons hb, ih hbs, List.reverse_cons,
      List.append_assoc, List.singleton_append]

theorem ofUInt8_toUInt8 {c : Char} (h : c.toNat < 128) : Char.ofUInt8 c.toUInt8 = c := by
  apply Char.ext
  apply UInt32.toNat_inj.1
  show c.toNat % 256 = c.toNat
  omega

/-- The bytes of a character that needs no escape are plain. -/
theorem isPlain_of_mem_utf8EncodeChar {c : Char} (hquote : c ≠ '"') (hbackslash : c ≠ '\\')
    (hspace : ¬ c.toNat < 0x20) {b : UInt8} (hb : b ∈ String.utf8EncodeChar c) : IsPlain b := by
  by_cases hc : c.toNat < 128
  · rw [Text.utf8EncodeChar_ascii hc] at hb
    obtain rfl := List.mem_singleton.1 hb
    refine ⟨?_, ?_, ?_⟩
    · rwa [ofUInt8_toUInt8 hc]
    · rwa [ofUInt8_toUInt8 hc]
    · rw [UInt8.lt_iff_toNat_lt]
      show ¬ c.toNat % 256 < 32
      omega
  · -- Beyond ASCII no byte is below 128, as all the others are.
    have hle := Text.le_of_mem_utf8EncodeChar (Nat.not_lt.1 hc) hb
    refine ⟨?_, ?_, ?_⟩
    · intro heq
      have : b.toNat = 34 := congrArg Char.toNat heq
      omega
    · intro heq
      have : b.toNat = 92 := congrArg Char.toNat heq
      omega
    · rw [UInt8.lt_iff_toNat_lt]
      show ¬ b.toNat < 32
      omega

/-! ## Escapes -/

theorem encoded_ascii {cs : List Char} (h : ∀ c ∈ cs, c.toNat < 128) :
    encoded cs = cs.map Char.toUInt8 := by
  rw [encoded, ← Text.bytes_ofList, Text.bytes_ofList_ascii h]

theorem push_eq (n : Nat) (acc : List UInt8) :
    push n acc = (String.utf8EncodeChar (Char.ofNat n)).reverse ++ acc := by
  unfold push
  rw [Text.bytes_eq_flatMap, String.toList_singleton, List.flatMap_singleton]

/-- A character that is written as a letter behind a backslash. -/
theorem readStringFrom_letter {letter c : Char} (hletter : letter.toNat < 128)
    (h : escapee? letter = some c) (acc rest : List UInt8) :
    readStringFrom .plain acc (encoded ['\\', letter] ++ rest) =
      readStringFrom .plain ((String.utf8EncodeChar c).reverse ++ acc) rest := by
  have hbytes : encoded ['\\', letter] = [0x5c, letter.toUInt8] := by
    apply encoded_ascii
    simp [hletter]
  rw [hbytes]
  show readStringFrom .escape acc (letter.toUInt8 :: rest) = _
  rw [readStringFrom, ofUInt8_toUInt8 hletter, h]
  show readStringFrom .plain (push c.toNat acc) rest = _
  rw [push_eq, Char.ofNat_toNat]

/-- Four digits of a code point that is no half of a pair. -/
theorem readStringFrom_hex {d₁ d₂ d₃ d₄ : UInt8} {n : Nat}
    (hn : Text.number? 16 [.ofUInt8 d₁, .ofUInt8 d₂, .ofUInt8 d₃, .ofUInt8 d₄] = some n)
    (hlow : isLow n = false) (hhigh : isHigh n = false) (acc rest : List UInt8) :
    readStringFrom (.hex [] none) acc (d₁ :: d₂ :: d₃ :: d₄ :: rest) =
      readStringFrom .plain (push n acc) rest := by
  simp [readStringFrom, hn, hlow, hhigh]

/-- The digits of a control are ASCII and read as its number. -/
theorem number?_hexDigits : ∀ n < 0x20,
    (hexDigit (n / 16)).toNat < 128 ∧ (hexDigit (n % 16)).toNat < 128 ∧
      Text.number? 16 [.ofUInt8 0x30, .ofUInt8 0x30, .ofUInt8 (hexDigit (n / 16)).toUInt8,
        .ofUInt8 (hexDigit (n % 16)).toUInt8] = some n ∧
      isLow n = false ∧ isHigh n = false := by
  decide

/-- A control is written as four hexadecimal digits. -/
theorem readStringFrom_control {n : Nat} (h : n < 0x20) (acc rest : List UInt8) :
    readStringFrom .plain acc
        (encoded ['\\', 'u', '0', '0', hexDigit (n / 16), hexDigit (n % 16)] ++ rest) =
      readStringFrom .plain ((String.utf8EncodeChar (Char.ofNat n)).reverse ++ acc) rest := by
  obtain ⟨hd₁, hd₂, hn, hlow, hhigh⟩ := number?_hexDigits n h
  have hbytes : encoded ['\\', 'u', '0', '0', hexDigit (n / 16), hexDigit (n % 16)] =
      [0x5c, 0x75, 0x30, 0x30, (hexDigit (n / 16)).toUInt8, (hexDigit (n % 16)).toUInt8] := by
    apply encoded_ascii
    simp [hd₁, hd₂]
  rw [hbytes]
  show readStringFrom (.hex [] none) acc (0x30 :: 0x30 :: _ :: _ :: rest) = _
  rw [readStringFrom_hex hn hlow hhigh, push_eq]

/-! ## Strings -/

/-- The reader gets over a written character to what stands behind it. -/
theorem readStringFrom_escaped (c : Char) (acc rest : List UInt8) :
    readStringFrom .plain acc (encoded (escaped c) ++ rest) =
      readStringFrom .plain ((String.utf8EncodeChar c).reverse ++ acc) rest := by
  unfold escaped
  split
  -- First what is not a letter behind a backslash: another control, or the character itself.
  case h_8 hquote hbackslash _ _ _ _ _ =>
    by_cases hc : c.toNat < 0x20
    · rw [if_pos hc, readStringFrom_control hc, Char.ofNat_toNat]
    · have hplain : ∀ b ∈ encoded [c], IsPlain b := by
        intro b hb
        rw [encoded_cons, encoded_nil, List.append_nil] at hb
        exact isPlain_of_mem_utf8EncodeChar hquote hbackslash hc hb
      rw [if_neg hc, readStringFrom_plain hplain, encoded_cons, encoded_nil, List.append_nil]
  all_goals exact readStringFrom_letter (by decide) rfl acc rest

theorem readStringFrom_flatMap_escaped (cs : List Char) (acc rest : List UInt8) :
    readStringFrom .plain acc (encoded (cs.flatMap escaped) ++ rest) =
      readStringFrom .plain ((encoded cs).reverse ++ acc) rest := by
  induction cs generalizing acc with
  | nil => rfl
  | cons c cs ih =>
    rw [List.flatMap_cons, encoded_append, List.append_assoc, readStringFrom_escaped, ih,
      encoded_cons, List.reverse_append, List.append_assoc]

/-- What was written of a string between its quotes is read as the string. -/
theorem readString_escaped (s : String) (rest : List UInt8) :
    readString (encoded (s.toList.flatMap escaped ++ ['"']) ++ rest) = .ok (s, rest) := by
  have hquote : encoded ['"'] ++ rest = 0x22 :: rest := rfl
  have hend : Char.ofUInt8 0x22 = '"' := rfl
  have hbytes : Text.ofBytes? (encoded s.toList) = some s := by
    rw [encoded, ← Text.bytes_eq_flatMap, Text.ofBytes?_bytes]
  unfold readString
  rw [encoded_append, List.append_assoc, readStringFrom_flatMap_escaped, hquote, List.append_nil]
  simp only [readStringFrom, hend, List.reverse_reverse, hbytes]

/-- Two texts that start with different strings are different. -/
theorem eq_of_renderString_append {s t : String} {a b : List Char}
    (h : renderString s ++ a = renderString t ++ b) : s = t := by
  have hs := readString_escaped s (encoded a)
  have ht := readString_escaped t (encoded b)
  have htail : s.toList.flatMap escaped ++ ['"'] ++ a = t.toList.flatMap escaped ++ ['"'] ++ b :=
    List.tail_eq_of_cons_eq h
  rw [← encoded_append, htail, encoded_append, ht] at hs
  exact (Prod.mk.inj (Except.ok.inj hs)).1.symm

end Gatehouse.Json
