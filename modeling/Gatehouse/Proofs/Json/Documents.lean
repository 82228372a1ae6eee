import Gatehouse.Json.Document
import Gatehouse.Proofs.Json.Strings

/-! # Reading back a written document

    A value without floats, whose numbers are naturals that 64 bits hold, is read back from
    its text (`parse?_render`).  The induction is on the value: what follows a value in the
    text is the end or the punctuation around it, so a number does not run on.

    The reader is given two units of fuel for each byte.  A value needs no more than two
    for each of its characters, since every bracket and every comma is one.

    Core Lean 4 only. -/

namespace Gatehouse.Json

/-! ## Numerals -/

/-- What can follow a value. -/
def IsEnd (s : List UInt8) : Prop := ∀ b ∈ s.head?, b = 0x2c ∨ b = 0x5d ∨ b = 0x7d

theorem isEnd_cons {b : UInt8} (h : b = 0x2c ∨ b = 0x5d ∨ b = 0x7d) (s : List UInt8) :
    IsEnd (b :: s) := by
  intro c hc
  rwa [← Option.some.inj hc]

/-- The digits of a number as bytes. -/
def digits (n : Nat) : List UInt8 := (Nat.toDigits 10 n).map Char.toUInt8

theorem digits_of_lt {n : Nat} (h : n < 10) : digits n = [n.digitChar.toUInt8] := by
  rw [digits, Nat.toDigits_of_lt_base h]
  rfl

theorem digits_of_le {n : Nat} (h : 10 ≤ n) :
    digits n = digits (n / 10) ++ [(n % 10).digitChar.toUInt8] := by
  rw [digits, Nat.toDigits_of_base_le (by decide) h, List.map_append]
  rfl

theorem isDigit_toUInt8 : ∀ d < 10,
    isDigit (Nat.digitChar d).toUInt8 = true ∧
      (Nat.digitChar d).toUInt8.toNat - 0x30 = d ∧
      ((Nat.digitChar d).toUInt8 = 0x30 → d = 0) := by
  decide

theorem isDigit_of_mem_digits {n : Nat} {b : UInt8} (h : b ∈ digits n) : isDigit b = true := by
  induction n using Nat.strongRecOn with
  | ind n ih =>
    by_cases hn : n < 10
    · rw [digits_of_lt hn] at h
      obtain rfl := List.mem_singleton.1 h
      exact (isDigit_toUInt8 n hn).1
    · rw [digits_of_le (by omega)] at h
      rcases List.mem_append.1 h with h | h
      · exact ih (n / 10) (by omega) h
      · obtain rfl := List.mem_singleton.1 h
        exact (isDigit_toUInt8 (n % 10) (by omega)).1

/-- The first digit of a number is zero only if the number is. -/
theorem exists_digits_eq_cons (n : Nat) :
    ∃ b bs, digits n = b :: bs ∧ (b = 0x30 → n = 0) := by
  induction n using Nat.strongRecOn with
  | ind n ih =>
    by_cases hn : n < 10
    · exact ⟨_, [], digits_of_lt hn, (isDigit_toUInt8 n hn).2.2⟩
    · obtain ⟨b, bs, hbs, hzero⟩ := ih (n / 10) (by omega)
      refine ⟨b, bs ++ [(n % 10).digitChar.toUInt8], ?_, ?_⟩
      · rw [digits_of_le (by omega), hbs, List.cons_append]
      · intro hb
        have := hzero hb
        omega

theorem accumulate_append {m k : Nat} {ds es : List UInt8} (h : accumulate m ds = (k, 0)) :
    accumulate m (ds ++ es) = accumulate k es := by
  induction ds generalizing m with
  | nil =>
    obtain ⟨rfl, -⟩ := Prod.mk.inj h
    rfl
  | cons d ds ih =>
    rw [List.cons_append, accumulate]
    rw [accumulate] at h
    by_cases hm : m * 10 + (d.toNat - 0x30) ≤ maxUInt64
    · simp only [if_pos hm] at h ⊢
      exact ih h
    · simp only [if_neg hm] at h
      exact absurd (Prod.mk.inj h).2 (Nat.succ_ne_zero _)

/-- All digits of a number are kept if 64 bits hold it. -/
theorem accumulate_digits {n : Nat} (h : n ≤ maxUInt64) : accumulate 0 (digits n) = (n, 0) := by
  induction n using Nat.strongRecOn with
  | ind n ih =>
    by_cases hn : n < 10
    · obtain ⟨-, hvalue, -⟩ := isDigit_toUInt8 n hn
      rw [digits_of_lt hn]
      simp [accumulate, hvalue, h]
    · obtain ⟨-, hvalue, -⟩ := isDigit_toUInt8 (n % 10) (by omega)
      have hn' : n / 10 * 10 + n % 10 = n := by omega
      rw [digits_of_le (by omega), accumulate_append (ih (n / 10) (by omega) (by omega))]
      simp [accumulate, hvalue, hn', h]

theorem takeWhile_dropWhile_digits (n : Nat) {rest : List UInt8} (hrest : IsEnd rest) :
    (digits n ++ rest).takeWhile isDigit = digits n ∧ (digits n ++ rest).dropWhile isDigit = rest := by
  have hall : ∀ b ∈ digits n, isDigit b = true := fun b hb => isDigit_of_mem_digits hb
  rw [List.takeWhile_append_of_pos hall, List.dropWhile_append_of_pos hall]
  cases rest with
  | nil => simp
  | cons b rest =>
    have hb : isDigit b = false := by
      rcases hrest b rfl with rfl | rfl | rfl <;> rfl
    simp [hb]

theorem readNumber_digits {n : Nat} (h : n ≤ maxUInt64) {rest : List UInt8} (hrest : IsEnd rest) :
    readNumber (digits n ++ rest) = .ok (.integer n, rest) := by
  obtain ⟨htake, hdrop⟩ := takeWhile_dropWhile_digits n hrest
  have haccumulate := accumulate_digits h
  obtain ⟨b, bs, hdigits, hzero⟩ := exists_digits_eq_cons n
  have hb : isDigit b = true := isDigit_of_mem_digits (hdigits ▸ List.mem_cons_self)
  have hunsigned : readNumber (digits n ++ rest) = readUnsigned false (digits n ++ rest) := by
    rw [hdigits]
    unfold readNumber
    split
    · rename_i heq
      obtain ⟨rfl, -⟩ := List.cons.inj heq
      cases hb
    · rfl
  have hlead : ¬ (b = 0x30 ∧ (bs ++ rest).head?.any isDigit = true) := by
    rintro ⟨hb, hany⟩
    obtain rfl := hzero hb
    obtain ⟨-, rfl⟩ := List.cons.inj hdigits.symm
    cases rest with
    | nil => cases hany
    | cons c rest => rcases hrest c rfl with rfl | rfl | rfl <;> cases hany
  -- No sign, no leading zero, all digits kept, and nothing behind them goes on the number.
  rw [hunsigned]
  rw [hdigits, List.cons_append] at htake hdrop ⊢
  unfold readUnsigned
  simp only [hb, Bool.not_true, Bool.false_eq_true, if_false, if_neg hlead, htake, hdrop]
  rw [← hdigits, haccumulate]
  cases rest with
  | nil => rfl
  | cons c rest => rcases hrest c rfl with rfl | rfl | rfl <;> rfl

/-! ## Values -/

mutual

/-- Nothing of the value is lost in its text. -/
def IsExact : Json → Prop
  | .null      => True
  | .boolean _ => True
  | .integer n => 0 ≤ n ∧ n ≤ maxUInt64
  | .float _   => False
  | .string _  => True
  | .array es  => ElementsExact es
  | .object ms => MembersExact ms

def ElementsExact : List Json → Prop
  | []      => True
  | e :: es => IsExact e ∧ ElementsExact es

def MembersExact : List (String × Json) → Prop
  | []           => True
  | (_, v) :: ms => IsExact v ∧ MembersExact ms

end

namespace Document

theorem got_readString_escaped (t : String) (rest : List UInt8) :
    got (readString (encoded (t.toList.flatMap escaped ++ ['"']) ++ rest)) = some (t, rest) := by
  rw [readString_escaped]
  rfl

theorem value?_string (fuel : Nat) (t : String) (rest : List UInt8) :
    value? (fuel + 1) (encoded (renderString t) ++ rest) = some (.string t, rest) := by
  show (got (readString (encoded (t.toList.flatMap escaped ++ ['"']) ++ rest))).map
    (fun p => (Json.string p.1, p.2)) = _
  rw [got_readString_escaped]
  exact rfl

theorem encoded_integer (n : Nat) : encoded (renderChars (.integer n)) = digits n := by
  have htext : renderChars (.integer n) = Nat.toDigits 10 n := Nat.toList_repr
  rw [htext, digits]
  apply encoded_ascii
  intro c hc
  have hdigit : c.isDigit = true := Nat.isDigit_of_mem_toDigits (by decide) (by decide) hc
  have hle : c.toNat ≤ 57 := by
    simpa [UInt32.le_iff_toNat_le] using (Char.isDigit_iff_toNat.1 hdigit).2
  omega

/-- A digit is no blank and starts nothing but a number. -/
theorem value?_of_isDigit {fuel : Nat} {b : UInt8} {s rest : List UInt8} {n : Int}
    (hb : isDigit b = true) (h : readNumber (b :: s) = .ok (.integer n, rest)) :
    value? (fuel + 1) (b :: s) = some (.integer n, rest) := by
  have hrange : 48 ≤ b.toNat ∧ b.toNat ≤ 57 := by
    simpa [isDigit, UInt8.le_iff_toNat_le] using hb
  have hne : ∀ c : Char, ¬ (48 ≤ c.toNat ∧ c.toNat ≤ 57) → Char.ofUInt8 b ≠ c := by
    rintro c hc rfl
    exact hc hrange
  have hspace : dropSpace (b :: s) = b :: s := by
    apply List.dropWhile_cons_of_neg
    intro hspace
    simp only [isSpace, Bool.or_eq_true, decide_eq_true_eq] at hspace
    rcases hspace with ((rfl | rfl) | rfl) | rfl <;> exact absurd hb (by decide)
  unfold value?
  simp only [hspace]
  split
  · exact absurd ‹_› (hne '[' (by decide))
  · exact absurd ‹_› (hne '\x7b' (by decide))
  · unfold scalar?
    simp only
    split
    · exact absurd ‹_› (hne 'n' (by decide))
    · exact absurd ‹_› (hne 't' (by decide))
    · exact absurd ‹_› (hne 'f' (by decide))
    · exact absurd ‹_› (hne '"' (by decide))
    · rw [h]
      rfl

theorem value?_integer (fuel : Nat) {n : Nat} (h : n ≤ maxUInt64) {rest : List UInt8}
    (hrest : IsEnd rest) :
    value? (fuel + 1) (encoded (renderChars (.integer n)) ++ rest) = some (.integer n, rest) := by
  have hnumber := readNumber_digits h hrest
  obtain ⟨b, bs, hdigits, -⟩ := exists_digits_eq_cons n
  have hb : isDigit b = true := isDigit_of_mem_digits (hdigits ▸ List.mem_cons_self)
  rw [encoded_integer]
  rw [hdigits] at hnumber ⊢
  exact value?_of_isDigit hb hnumber

/-- Where a value starts no array ends. -/
theorem expect?_of_value? {fuel : Nat} {s : List UInt8} {r : Json × List UInt8}
    (h : value? fuel s = some r) : expect? ']' s = none := by
  cases fuel with
  | zero => cases h
  | succ fuel =>
    unfold value? at h
    unfold expect?
    split
    · rfl
    · rename_i b rest hspace
      rw [if_neg]
      intro hb
      obtain rfl : b = 0x5d := UInt8.toNat_inj.1 (congrArg Char.toNat hb)
      simp only [hspace] at h
      cases h

theorem elements?_comma {fuel : Nat} {v : Json} {s rest : List UInt8}
    (hv : value? fuel s = some (v, 0x2c :: rest)) (found : List Json) :
    elements? (fuel + 1) found s = elements? fuel (v :: found) rest := by
  rw [elements?, hv]
  exact rfl

theorem elements?_close {fuel : Nat} {v : Json} {s rest : List UInt8}
    (hv : value? fuel s = some (v, 0x5d :: rest)) (found : List Json) :
    elements? (fuel + 1) found s = some (.array (v :: found).reverse, rest) := by
  rw [elements?, hv]
  exact rfl

/-- Where an element starts no array ends. -/
theorem expect?_of_elements? {fuel : Nat} {found : List Json} {s : List UInt8}
    {r : Json × List UInt8} (h : elements? (fuel + 1) found s = some r) :
    expect? ']' s = none := by
  cases hv : value? fuel s with
  | none =>
    rw [elements?, hv] at h
    cases h
  | some r => exact expect?_of_value? hv

/-- The opening quote of a key. -/
theorem expect?_key (key : String) (s : List UInt8) :
    expect? '"' (encoded (renderString key ++ [':']) ++ s) =
      some (encoded (key.toList.flatMap escaped ++ ['"']) ++ 0x3a :: s) := by
  have hbytes : encoded (renderString key ++ [':']) ++ s =
      0x22 :: (encoded (key.toList.flatMap escaped ++ ['"']) ++ 0x3a :: s) := by
    rw [encoded_append, renderString, List.append_assoc]
    exact rfl
  rw [hbytes]
  exact rfl

theorem expect?_colon (s : List UInt8) : expect? ':' (0x3a :: s) = some s := rfl

theorem members?_comma {fuel : Nat} {v : Json} {s rest : List UInt8} (key : String)
    (hv : value? fuel s = some (v, 0x2c :: rest)) (found : List (String × Json)) :
    members? (fuel + 1) found (encoded (renderString key ++ [':']) ++ s) =
      members? fuel ((key, v) :: found) rest := by
  rw [members?, expect?_key]
  simp only [Option.bind_eq_bind, Option.bind_some, got_readString_escaped, expect?_colon, hv]
  exact rfl

theorem members?_close {fuel : Nat} {v : Json} {s rest : List UInt8} (key : String)
    (hv : value? fuel s = some (v, 0x7d :: rest)) (found : List (String × Json)) :
    members? (fuel + 1) found (encoded (renderString key ++ [':']) ++ s) =
      some (.object ((key, v) :: found).reverse, rest) := by
  rw [members?, expect?_key]
  simp only [Option.bind_eq_bind, Option.bind_some, got_readString_escaped, expect?_colon, hv]
  exact rfl

/-- Where a member starts no object ends. -/
theorem expect?_of_members? {fuel : Nat} {found : List (String × Json)} {s : List UInt8}
    {r : Json × List UInt8} (h : members? (fuel + 1) found s = some r) :
    expect? '\x7d' s = none := by
  cases hquote : expect? '"' s with
  | none =>
    rw [members?, hquote] at h
    cases h
  | some t =>
    unfold expect? at hquote ⊢
    split
    · rfl
    · rename_i b rest hspace
      rw [if_neg]
      intro hb
      simp only [hspace, hb] at hquote
      cases hquote

theorem value?_array {fuel : Nat} {s : List UInt8} (h : expect? ']' s = none) :
    value? (fuel + 1) (0x5b :: s) = elements? fuel [] s := by
  have hspace : dropSpace (0x5b :: s) = 0x5b :: s := rfl
  have hopen : Char.ofUInt8 0x5b = '[' := rfl
  simp only [value?, hspace, hopen, h]

theorem value?_object {fuel : Nat} {s : List UInt8} (h : expect? '\x7d' s = none) :
    value? (fuel + 1) (0x7b :: s) = members? fuel [] s := by
  have hspace : dropSpace (0x7b :: s) = 0x7b :: s := rfl
  have hopen : Char.ofUInt8 0x7b = '\x7b' := rfl
  simp only [value?, hspace, hopen, h]

mutual

/-- A value is read back, with two units of fuel for each of its characters but one. -/
theorem value?_render : ∀ (v : Json) (fuel : Nat) (rest : List UInt8), IsExact v → IsEnd rest →
    2 * (renderChars v).length ≤ fuel + 2 →
    value? (fuel + 1) (encoded (renderChars v) ++ rest) = some (v, rest)
  | .null, _, _, _, _, _          => rfl
  | .boolean true, _, _, _, _, _  => rfl
  | .boolean false, _, _, _, _, _ => rfl
  | .string t, fuel, rest, _, _, _ => value?_string fuel t rest
  | .integer n, fuel, rest, h, hrest, _ => by
    obtain ⟨k, rfl⟩ := Int.eq_ofNat_of_zero_le h.1
    exact value?_integer fuel (Int.ofNat_le.1 h.2) hrest
  | .array [], _, _, _, _, _      => rfl
  | .array (e :: es), fuel, rest, h, _, hfuel => by
    rw [renderChars, List.length_append, List.length_cons, List.length_singleton] at hfuel
    -- Each of the two brackets pays for one step: opening the array, and its first element.
    obtain ⟨k, rfl⟩ : ∃ k, fuel = k + 2 := ⟨fuel - 2, by omega⟩
    have helements := elements?_render (e :: es) k [] rest (List.cons_ne_nil e es) h (by omega)
    have hopen := expect?_of_elements? helements
    exact (value?_array hopen).trans helements
  | .object [], _, _, _, _, _     => rfl
  | .object (m :: ms), fuel, rest, h, _, hfuel => by
    rw [renderChars, List.length_append, List.length_cons, List.length_singleton] at hfuel
    obtain ⟨k, rfl⟩ : ∃ k, fuel = k + 2 := ⟨fuel - 2, by omega⟩
    have hmembers := members?_render (m :: ms) k [] rest (List.cons_ne_nil m ms) h (by omega)
    have hopen := expect?_of_members? hmembers
    exact (value?_object hopen).trans hmembers

theorem elements?_render : ∀ (es : List Json) (fuel : Nat) (found : List Json)
    (rest : List UInt8), es ≠ [] → ElementsExact es →
    2 * (commas (renderElements es)).length ≤ fuel →
    elements? (fuel + 2) found (encoded (commas (renderElements es) ++ [']']) ++ rest) =
      some (.array (found.reverse ++ es), rest)
  | [], _, _, _, hne, _, _ => absurd rfl hne
  | [e], fuel, found, rest, _, h, hfuel => by
    simp only [renderElements, commas] at hfuel ⊢
    have hv := value?_render e fuel (0x5d :: rest) h.1 (isEnd_cons (by decide) rest) (by omega)
    rw [encoded_append, List.append_assoc]
    show elements? (fuel + 2) found (encoded (renderChars e) ++ 0x5d :: rest) = _
    rw [elements?_close hv, List.reverse_cons]
  | e :: f :: es, fuel, found, rest, _, h, hfuel => by
    simp only [renderElements, commas, List.length_append, List.length_cons] at hfuel ⊢
    -- The comma pays for the step to the next element.
    obtain ⟨k, rfl⟩ : ∃ k, fuel = k + 1 := ⟨fuel - 1, by omega⟩
    have hes := elements?_render (f :: es) k (e :: found) rest (List.cons_ne_nil f es) h.2
      (by rw [renderElements]; omega)
    have hv := value?_render e (k + 1)
      (0x2c :: (encoded (commas (renderElements (f :: es)) ++ [']']) ++ rest)) h.1
      (isEnd_cons (by decide) _) (by omega)
    rw [List.append_assoc, encoded_append, List.append_assoc]
    show elements? (k + 3) found (encoded (renderChars e) ++
      0x2c :: (encoded (commas (renderElements (f :: es)) ++ [']']) ++ rest)) = _
    rw [elements?_comma hv, hes, List.reverse_cons, List.append_assoc, List.singleton_append]

theorem members?_render : ∀ (ms : List (String × Json)) (fuel : Nat)
    (found : List (String × Json)) (rest : List UInt8), ms ≠ [] → MembersExact ms →
    2 * (commas (renderMembers ms)).length ≤ fuel →
    members? (fuel + 2) found (encoded (commas (renderMembers ms) ++ ['\x7d']) ++ rest) =
      some (.object (found.reverse ++ ms), rest)
  | [], _, _, _, hne, _, _ => absurd rfl hne
  | [(key, v)], fuel, found, rest, _, h, hfuel => by
    simp only [renderMembers, commas, List.length_append, List.length_cons] at hfuel ⊢
    have hv := value?_render v fuel (0x7d :: rest) h.1 (isEnd_cons (by decide) rest) (by omega)
    have hbytes : encoded (renderString key ++ ':' :: renderChars v ++ ['\x7d']) ++ rest =
        encoded (renderString key ++ [':']) ++ (encoded (renderChars v) ++ 0x7d :: rest) := by
      simp only [encoded_append, encoded_cons, List.append_assoc, encoded_nil, List.nil_append]
      rfl
    rw [hbytes, members?_close key hv, List.reverse_cons]
  | (key, v) :: (key', v') :: ms, fuel, found, rest, _, h, hfuel => by
    simp only [renderMembers, commas, List.length_append, List.length_cons] at hfuel ⊢
    obtain ⟨k, rfl⟩ : ∃ k, fuel = k + 1 := ⟨fuel - 1, by omega⟩
    have hms := members?_render ((key', v') :: ms) k ((key, v) :: found) rest
      (List.cons_ne_nil _ ms) h.2 (by simp only [renderMembers]; omega)
    have hv := value?_render v (k + 1)
      (0x2c :: (encoded (commas (renderMembers ((key', v') :: ms)) ++ ['\x7d']) ++ rest)) h.1
      (isEnd_cons (by decide) _) (by omega)
    have hbytes : encoded (renderString key ++ ':' :: renderChars v ++
          ',' :: commas (renderMembers ((key', v') :: ms)) ++ ['\x7d']) ++ rest =
        encoded (renderString key ++ [':']) ++ (encoded (renderChars v) ++
          0x2c :: (encoded (commas (renderMembers ((key', v') :: ms)) ++ ['\x7d']) ++ rest)) := by
      simp only [encoded_append, encoded_cons, List.append_assoc, encoded_nil, List.nil_append]
      rfl
    show members? (k + 3) found (encoded (renderString key ++ ':' :: renderChars v ++
      ',' :: commas (renderMembers ((key', v') :: ms)) ++ ['\x7d']) ++ rest) = _
    rw [hbytes, members?_comma key hv, hms, List.reverse_cons, List.append_assoc, List.singleton_append]

end

end Document

theorem length_le_length_encoded (cs : List Char) : cs.length ≤ (encoded cs).length := by
  induction cs with
  | nil => exact Nat.zero_le _
  | cons c cs ih =>
    have hc : 0 < (String.utf8EncodeChar c).length := by
      rw [String.length_utf8EncodeChar]
      exact Char.utf8Size_pos c
    rw [encoded_cons, List.length_append, List.length_cons]
    omega

/-- A value of which nothing is lost in its text is read back from it. -/
theorem parse?_render {v : Json} (h : IsExact v) : parse? (Text.bytes v.render) = some v := by
  have hbytes : Text.bytes v.render = encoded (renderChars v) := Text.bytes_ofList _
  have hlength := length_le_length_encoded (renderChars v)
  have hend : IsEnd [] := by
    intro b hb
    cases hb
  have hvalue := Document.value?_render v (2 * (encoded (renderChars v)).length + 1) [] h hend
    (by omega)
  rw [List.append_nil] at hvalue
  rw [hbytes, parse?, hvalue]
  rfl

end Gatehouse.Json
