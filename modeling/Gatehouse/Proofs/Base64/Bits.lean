import Gatehouse.Proofs.Base64
import Mathlib.Data.Nat.Bitwise

/-! # Base64 as a spelling of bits

    Base64 can be told by bits: the bits of the bytes stand one after another, highest first,
    and each symbol spells the next six of them by its place in the alphabet.  The last symbol
    is filled up with zeros (`flatMap_symbolBits_encode`).

    Without padding a text has no other characters (`mem_alphabet_of_mem_encode`), and as many
    as the bits need (`length_encode`).  With the padding behind it, it is read back
    (`decode_encode_unpadded`), so no two byte strings share a text (`encode_unpadded_inj`). -/

namespace Gatehouse.Base64

/-! ## Bits -/

/-- The symbols in the order of their numbers. -/
def alphabet : List Char :=
  "ABCDEFGHIJKLMNOPQRSTUVWXYZabcdefghijklmnopqrstuvwxyz0123456789+/".toList

/-- The lowest bits of a number, highest first. -/
def bits : Nat → Nat → List Bool
  | 0,     _ => []
  | k + 1, n => n.testBit k :: bits k n

def byteBits (b : UInt8) : List Bool := bits 8 b.toNat

/-- The six bits that a symbol spells. -/
def symbolBits (c : Char) : List Bool := bits 6 (alphabet.idxOf c)

theorem bits_congr {k n n' : Nat} (h : ∀ i < k, n.testBit i = n'.testBit i) :
    bits k n = bits k n' := by
  induction k with
  | zero => rfl
  | succ k ih =>
    have hlower := ih fun i hi => h i (Nat.lt_succ_of_lt hi)
    rw [bits, bits, h k (Nat.lt_succ_self k), hlower]

/-- The bits of two numbers in a row are those of one number. -/
theorem bits_append {m b : Nat} (hb : b < 2 ^ m) (k a : Nat) :
    bits k a ++ bits m b = bits (k + m) (2 ^ m * a + b) := by
  induction k with
  | zero =>
    rw [Nat.zero_add]
    apply bits_congr
    intro i hi
    rw [Nat.testBit_two_pow_mul_add a hb, if_pos hi]
  | succ k ih =>
    have hbit : (2 ^ m * a + b).testBit (k + m) = a.testBit k := by
      rw [Nat.testBit_two_pow_mul_add a hb, if_neg (Nat.not_lt.2 (Nat.le_add_left m k)),
        Nat.add_sub_cancel]
    rw [Nat.add_right_comm, bits, bits, List.cons_append, ih, hbit]

/-! ## Symbols -/

theorem symbol_mem_alphabet {n : Nat} (h : n < 64) : symbol n ∈ alphabet := by
  have hall : ∀ m : Fin 64, symbol m ∈ alphabet := by decide +kernel
  exact hall ⟨n, h⟩

/-- The number of a symbol is its place in the alphabet. -/
theorem symbolBits_symbol {n : Nat} (h : n < 64) : symbolBits (symbol n) = bits 6 n := by
  have hall : ∀ m : Fin 64, alphabet.idxOf (symbol m) = m := by decide +kernel
  unfold symbolBits
  rw [hall ⟨n, h⟩]

/-- Without padding, a written text holds symbols only. -/
theorem mem_alphabet_of_mem_encode (bs : List UInt8) :
    ∀ c ∈ encode .unpadded bs, c ∈ alphabet := by
  fun_induction encode .unpadded bs with
  | case1 => simp
  | case2 a n =>
    have ha := a.toNat_lt
    simp only [Padding.fill, List.forall_mem_cons]
    exact ⟨symbol_mem_alphabet (by omega), symbol_mem_alphabet (by omega), by simp⟩
  | case3 a b n =>
    have ha := a.toNat_lt
    have hb := b.toNat_lt
    simp only [Padding.fill, List.forall_mem_cons]
    exact ⟨symbol_mem_alphabet (by omega), symbol_mem_alphabet (by omega),
      symbol_mem_alphabet (by omega), by simp⟩
  | case4 a b c rest n ih =>
    have ha := a.toNat_lt
    have hb := b.toNat_lt
    have hc := c.toNat_lt
    simp only [List.forall_mem_cons]
    exact ⟨symbol_mem_alphabet (by omega), symbol_mem_alphabet (by omega),
      symbol_mem_alphabet (by omega), symbol_mem_alphabet (by omega), ih⟩

/-! ## Texts without padding -/

/-- The symbols of a text spell the bits of the bytes, and zeros up to the end of the last
    symbol. -/
theorem flatMap_symbolBits_encode (bs : List UInt8) :
    (encode .unpadded bs).flatMap symbolBits =
      bs.flatMap byteBits ++ List.replicate (bs.length * 4 % 6) false := by
  -- In each case the symbols make up one number, and so do the bytes with the zeros.
  fun_induction encode .unpadded bs with
  | case1 => rfl
  | case2 a n =>
    have ha := a.toNat_lt
    have hsymbols : bits 6 (n / 64) ++ bits 6 (n % 64) = bits 12 n := by
      rw [bits_append (by omega)]
      congr 1
      omega
    have hbytes : byteBits a ++ List.replicate 4 false = bits 12 n := by
      rw [byteBits, show List.replicate 4 false = bits 4 0 from rfl, bits_append (by decide)]
      congr 1
      omega
    simp only [Padding.fill, List.flatMap_cons, List.flatMap_nil, List.append_nil]
    rw [symbolBits_symbol (by omega), symbolBits_symbol (by omega), hsymbols, ← hbytes]
    simp
  | case3 a b n =>
    have ha := a.toNat_lt
    have hb := b.toNat_lt
    have hsymbols : bits 6 (n / 4096) ++ (bits 6 (n / 64 % 64) ++ bits 6 (n % 64)) =
        bits 18 n := by
      rw [← List.append_assoc, bits_append (by omega), bits_append (by omega)]
      congr 1
      omega
    have hbytes : byteBits a ++ byteBits b ++ List.replicate 2 false = bits 18 n := by
      rw [byteBits, byteBits, show List.replicate 2 false = bits 2 0 from rfl,
        bits_append (by omega), bits_append (by decide)]
      congr 1
      omega
    simp only [Padding.fill, List.flatMap_cons, List.flatMap_nil, List.append_nil]
    rw [symbolBits_symbol (by omega), symbolBits_symbol (by omega), symbolBits_symbol (by omega),
      hsymbols, ← hbytes]
    simp
  | case4 a b c rest n ih =>
    have ha := a.toNat_lt
    have hb := b.toNat_lt
    have hc := c.toNat_lt
    have hsymbols : bits 6 (n / 262144) ++ bits 6 (n / 4096 % 64) ++ bits 6 (n / 64 % 64) ++
        bits 6 (n % 64) = bits 24 n := by
      rw [bits_append (by omega), bits_append (by omega), bits_append (by omega)]
      congr 1
      omega
    have hbytes : byteBits a ++ byteBits b ++ byteBits c = bits 24 n := by
      rw [byteBits, byteBits, byteBits, bits_append (by omega), bits_append (by omega)]
      congr 1
      omega
    have hzeros : (a :: b :: c :: rest).length * 4 % 6 = rest.length * 4 % 6 := by
      simp only [List.length_cons]
      omega
    rw [hzeros]
    simp only [List.flatMap_cons, ih]
    rw [symbolBits_symbol (by omega), symbolBits_symbol (by omega), symbolBits_symbol (by omega),
      symbolBits_symbol (by omega)]
    simp only [← List.append_assoc]
    rw [hsymbols, hbytes]

/-- There are as many symbols as the bits need. -/
theorem length_encode (bs : List UInt8) :
    (encode .unpadded bs).length = (bs.length * 8 + 5) / 6 := by
  fun_induction encode .unpadded bs with
  | case1 => rfl
  | case2 => simp [Padding.fill]
  | case3 => simp [Padding.fill]
  | case4 a b c rest n ih =>
    simp only [List.length_cons, ih]
    omega

/-- Padding is only added at the end. -/
theorem encode_padded (bs : List UInt8) :
    encode .padded bs = encode .unpadded bs ++ List.replicate (bs.length * 2 % 3) '=' := by
  fun_induction encode .unpadded bs with
  | case1 => rfl
  | case2 a n => simp [encode, Padding.fill, n]
  | case3 a b n => simp [encode, Padding.fill, n]
  | case4 a b c rest n ih =>
    have hfill : (a :: b :: c :: rest).length * 2 % 3 = rest.length * 2 % 3 := by
      simp only [List.length_cons]
      omega
    rw [encode, ih, hfill]
    rfl

/-- A text without padding is read back once the padding is put behind it. -/
theorem decode_encode_unpadded (bs : List UInt8) :
    decode (Text.bytes (String.ofList
      (encode .unpadded bs ++ List.replicate (bs.length * 2 % 3) '='))) = .ok bs := by
  rw [← encode_padded]
  exact decode_encode bs

/-- No two byte strings have the same text, also without padding. -/
theorem encode_unpadded_inj {bs bs' : List UInt8}
    (h : encode .unpadded bs = encode .unpadded bs') : bs = bs' := by
  have hlength : bs.length = bs'.length := by
    have hsymbols := congrArg List.length h
    rw [length_encode, length_encode] at hsymbols
    omega
  have hread := decode_encode_unpadded bs
  rw [h, hlength, decode_encode_unpadded] at hread
  exact (Except.ok.inj hread).symm

end Gatehouse.Base64
