import Gatehouse.Base64
import Gatehouse.Proofs.Text.Utf8

/-! # Base64 reads back what it wrote

    `decode_encode`: the padded text of any bytes is read as these bytes.  A group is
    taken on its own first: its padding is dropped and its symbols give back their numbers
    (`decodeGroup_symbols`), so that what is left of each of the three kinds of group is
    arithmetic on one number of 24 bits.

    `isSome_value?_of_decode`: only texts of symbols and padding are read at all.

    Core Lean 4 only. -/

namespace Gatehouse.Base64

/-! ## Symbols -/

/-- The byte that stands for a six-bit number. -/
def symbolByte (n : Nat) : UInt8 := (symbol n).toUInt8

theorem value?_symbolByte {n : Nat} (h : n < 64) : value? (symbolByte n) = some n :=
  value?_symbol ⟨n, h⟩

theorem symbolByte_ne_pad {n : Nat} (h : n < 64) : symbolByte n ≠ pad := by
  have hall : ∀ m : Fin 64, symbolByte m ≠ pad := by decide
  exact hall ⟨n, h⟩

theorem symbol_ascii {n : Nat} (h : n < 64) : (symbol n).toNat < 128 := by
  have hall : ∀ m : Fin 64, (symbol m).toNat < 128 := by decide
  exact hall ⟨n, h⟩

theorem values_symbols (position : Nat) {ns : List Nat} (h : ∀ n ∈ ns, n < 64) :
    values position (ns.map symbolByte) = .ok ns := by
  induction ns generalizing position with
  | nil => rfl
  | cons n ns ih =>
    have hn := value?_symbolByte (h n List.mem_cons_self)
    have hns := ih (position + 1) fun m hm => h m (List.mem_cons_of_mem _ hm)
    simp [values, hn, hns, Except.map]

/-! ## Groups -/

/-- Dropping the padding leaves the symbols. -/
theorem dropPadding_symbols {ns : List Nat} (h : ∀ n ∈ ns, n < 64) (k : Nat) :
    ((ns.map symbolByte ++ List.replicate k pad).reverse.dropWhile (· == pad)).reverse
      = ns.map symbolByte := by
  have hsymbols : ∀ b ∈ (ns.map symbolByte).reverse, (b == pad) = false := by
    intro b hb
    obtain ⟨n, hn, rfl⟩ := List.mem_map.1 (List.mem_reverse.1 hb)
    exact beq_false_of_ne (symbolByte_ne_pad (h n hn))
  have hdrop : ∀ bs : List UInt8, (∀ b ∈ bs, (b == pad) = false) →
      bs.dropWhile (· == pad) = bs := by
    intro bs hbs
    cases bs with
    | nil => rfl
    | cons b bs => rw [List.dropWhile_cons_of_neg]; simp [hbs b List.mem_cons_self]
  rw [List.reverse_append, List.reverse_replicate, List.dropWhile_append_of_pos]
  · rw [hdrop _ hsymbols, List.reverse_reverse]
  · intro b hb
    simp [List.eq_of_mem_replicate hb]

/-- The symbols of a padded group decide its bytes. -/
theorem decodeGroup_symbols (position : Nat) {ns : List Nat} (h : ∀ n ∈ ns, n < 64) (k : Nat) :
    decodeGroup position (ns.map symbolByte ++ List.replicate k pad)
      = decodeGroup position (ns.map symbolByte) := by
  have hplain := dropPadding_symbols h 0
  rw [List.replicate_zero, List.append_nil] at hplain
  unfold decodeGroup
  rw [dropPadding_symbols h k, hplain]

theorem values_of_group (position : Nat) {ns : List Nat} (h : ∀ n ∈ ns, n < 64) :
    values position (((ns.map symbolByte).reverse.dropWhile (· == pad)).reverse) = .ok ns := by
  have hplain := dropPadding_symbols h 0
  rw [List.replicate_zero, List.append_nil] at hplain
  rw [hplain, values_symbols position h]

theorem decodeGroup_four (position : Nat) {a b c d : Nat} (ha : a < 64) (hb : b < 64)
    (hc : c < 64) (hd : d < 64) :
    decodeGroup position [symbolByte a, symbolByte b, symbolByte c, symbolByte d] =
      .ok [UInt8.ofNat ((((a * 64 + b) * 64 + c) * 64 + d) / 65536),
        UInt8.ofNat ((((a * 64 + b) * 64 + c) * 64 + d) / 256),
        UInt8.ofNat (((a * 64 + b) * 64 + c) * 64 + d)] := by
  have hall : ∀ n ∈ [a, b, c, d], n < 64 := by simp [ha, hb, hc, hd]
  have h := values_of_group position hall
  simp only [List.map_cons, List.map_nil] at h
  simp only [decodeGroup, h]

/-- A group of three symbols; the last two of its 18 bits belong to no byte. -/
theorem decodeGroup_three (position : Nat) {a b c : Nat} (ha : a < 64) (hb : b < 64)
    (hc : c < 64) (hbits : ((a * 64 + b) * 64 + c) % 4 = 0) :
    decodeGroup position [symbolByte a, symbolByte b, symbolByte c, pad] =
      .ok [UInt8.ofNat (((a * 64 + b) * 64 + c) / 1024),
        UInt8.ofNat (((a * 64 + b) * 64 + c) / 4)] := by
  have hall : ∀ n ∈ [a, b, c], n < 64 := by simp [ha, hb, hc]
  have hpad := decodeGroup_symbols position hall 1
  have h := values_of_group position hall
  simp only [List.map_cons, List.map_nil, List.replicate_one, List.cons_append,
    List.nil_append] at hpad h
  rw [hpad]
  simp only [decodeGroup, h, if_pos hbits]

/-- A group of two symbols; the last four of its 12 bits belong to no byte. -/
theorem decodeGroup_two (position : Nat) {a b : Nat} (ha : a < 64) (hb : b < 64)
    (hbits : (a * 64 + b) % 16 = 0) :
    decodeGroup position [symbolByte a, symbolByte b, pad, pad] =
      .ok [UInt8.ofNat ((a * 64 + b) / 16)] := by
  have hall : ∀ n ∈ [a, b], n < 64 := by simp [ha, hb]
  have hpad := decodeGroup_symbols position hall 2
  have h := values_of_group position hall
  simp only [List.map_cons, List.map_nil, List.replicate_succ, List.replicate_zero,
    List.cons_append, List.nil_append] at hpad h
  rw [hpad]
  simp only [decodeGroup, h, if_pos hbits]

/-! ## Whole texts -/

/-- A byte is found again at its place in a number of several bytes. -/
theorem ofNat_eq_of_mod {b : UInt8} {n : Nat} (h : n % 256 = b.toNat) : UInt8.ofNat n = b := by
  apply UInt8.toNat_inj.1
  rw [UInt8.toNat_ofNat', ← h]

theorem eq_of_mem_fill {padding : Padding} {n : Nat} {c : Char} (h : c ∈ padding.fill n) :
    c = '=' := by
  cases padding with
  | padded => exact List.eq_of_mem_replicate h
  | unpadded => cases h

/-- A written text holds symbols and padding only. -/
theorem exists_symbol_of_mem_encode {padding : Padding} {bs : List UInt8} {c : Char}
    (h : c ∈ encode padding bs) : (∃ n, n < 64 ∧ c = symbol n) ∨ c = '=' := by
  fun_induction encode padding bs with
  | case1 => cases h
  | case2 a n =>
    have := a.toNat_lt
    simp only [List.mem_cons] at h
    rcases h with rfl | rfl | h
    · exact .inl ⟨_, by omega, rfl⟩
    · exact .inl ⟨_, by omega, rfl⟩
    · exact .inr (eq_of_mem_fill h)
  | case3 a b n =>
    have := a.toNat_lt
    have := b.toNat_lt
    simp only [List.mem_cons] at h
    rcases h with rfl | rfl | rfl | h
    · exact .inl ⟨_, by omega, rfl⟩
    · exact .inl ⟨_, by omega, rfl⟩
    · exact .inl ⟨_, by omega, rfl⟩
    · exact .inr (eq_of_mem_fill h)
  | case4 a b c rest n ih =>
    have := a.toNat_lt
    have := b.toNat_lt
    have := c.toNat_lt
    simp only [List.mem_cons] at h
    rcases h with rfl | rfl | rfl | rfl | h
    · exact .inl ⟨_, by omega, rfl⟩
    · exact .inl ⟨_, by omega, rfl⟩
    · exact .inl ⟨_, by omega, rfl⟩
    · exact .inl ⟨_, by omega, rfl⟩
    · exact ih h

theorem encode_ascii {padding : Padding} (bs : List UInt8) :
    ∀ c ∈ encode padding bs, c.toNat < 128 := by
  intro c hc
  rcases exists_symbol_of_mem_encode hc with ⟨n, hn, rfl⟩ | rfl
  · exact symbol_ascii hn
  · decide

/-- Reading a written text puts its bytes after those already read. -/
theorem decodeFrom_encode (position : Nat) (decoded bs : List UInt8) :
    decodeFrom position decoded ((encode .padded bs).map Char.toUInt8)
      = .ok (decoded.reverse ++ bs) := by
  -- The induction takes three bytes at a time, as the writer does; in each case the group
  -- is read first, and then its bytes are found again in the number they make up.
  fun_induction encode .padded bs generalizing position decoded with
  | case1 => simp [decodeFrom]
  | case2 a n =>
    have ha := a.toNat_lt
    have hgroup := decodeGroup_two position (a := n / 64) (b := n % 64)
      (by omega) (by omega) (by omega)
    have hbyte : UInt8.ofNat ((n / 64 * 64 + n % 64) / 16) = a := ofNat_eq_of_mod (by omega)
    rw [hbyte] at hgroup
    show decodeFrom position decoded
      [symbolByte (n / 64), symbolByte (n % 64), pad, pad] = _
    simp [decodeFrom, hgroup]
  | case3 a b n =>
    have ha := a.toNat_lt
    have hb := b.toNat_lt
    have hgroup := decodeGroup_three position (a := n / 4096) (b := n / 64 % 64) (c := n % 64)
      (by omega) (by omega) (by omega) (by omega)
    have hfirst : UInt8.ofNat (((n / 4096 * 64 + n / 64 % 64) * 64 + n % 64) / 1024) = a :=
      ofNat_eq_of_mod (by omega)
    have hsecond : UInt8.ofNat (((n / 4096 * 64 + n / 64 % 64) * 64 + n % 64) / 4) = b :=
      ofNat_eq_of_mod (by omega)
    rw [hfirst, hsecond] at hgroup
    show decodeFrom position decoded
      [symbolByte (n / 4096), symbolByte (n / 64 % 64), symbolByte (n % 64), pad] = _
    simp [decodeFrom, hgroup]
  | case4 a b c rest n ih =>
    have ha := a.toNat_lt
    have hb := b.toNat_lt
    have hc := c.toNat_lt
    have hgroup := decodeGroup_four position (a := n / 262144) (b := n / 4096 % 64)
      (c := n / 64 % 64) (d := n % 64) (by omega) (by omega) (by omega) (by omega)
    have hwhole : ((n / 262144 * 64 + n / 4096 % 64) * 64 + n / 64 % 64) * 64 + n % 64 = n := by
      omega
    have hfirst : UInt8.ofNat (n / 65536) = a := ofNat_eq_of_mod (by omega)
    have hsecond : UInt8.ofNat (n / 256) = b := ofNat_eq_of_mod (by omega)
    have hthird : UInt8.ofNat n = c := ofNat_eq_of_mod (by omega)
    rw [hwhole, hfirst, hsecond, hthird] at hgroup
    show decodeFrom position decoded
      (symbolByte (n / 262144) :: symbolByte (n / 4096 % 64) :: symbolByte (n / 64 % 64)
        :: symbolByte (n % 64) :: (encode .padded rest).map Char.toUInt8) = _
    simp [decodeFrom, hgroup, ih]

/-- Reading undoes writing. -/
theorem decode_encode (bs : List UInt8) :
    decode (Text.bytes (String.ofList (encode .padded bs))) = .ok bs := by
  rw [Text.bytes_ofList_ascii (encode_ascii bs)]
  exact decodeFrom_encode 0 [] bs

/-! ## Texts that can be read -/

theorem isSome_value?_of_values {position : Nat} {bs : List UInt8} {ns : List Nat}
    (h : values position bs = .ok ns) : ∀ b ∈ bs, (value? b).isSome = true := by
  induction bs generalizing position ns with
  | nil => simp
  | cons a bs ih =>
    unfold values at h
    split at h
    · cases h
    · rename_i n hn
      cases hrest : values (position + 1) bs with
      | error e =>
        rw [hrest] at h
        cases h
      | ok ms =>
        rw [List.forall_mem_cons]
        exact ⟨by rw [hn]; rfl, ih hrest⟩

/-- The bytes of a group that is read are symbols, and padding behind them. -/
theorem isSome_value?_of_decodeGroup {position : Nat} {group more : List UInt8}
    (h : decodeGroup position group = .ok more) :
    ∀ b ∈ group, b = pad ∨ (value? b).isSome = true := by
  intro b hb
  -- A group is the symbols that are kept and the padding that is dropped.
  rw [← List.mem_reverse, ← List.takeWhile_append_dropWhile (p := (· == pad)) (l := group.reverse),
    List.mem_append] at hb
  rcases hb with hdropped | hkept
  · have hpad := List.all_eq_true.1 List.all_takeWhile b hdropped
    exact .inl (by simpa using hpad)
  · right
    unfold decodeGroup at h
    cases hvalues : values position (group.reverse.dropWhile (· == pad)).reverse with
    | error e =>
      simp only [hvalues] at h
      cases h
    | ok ns => exact isSome_value?_of_values hvalues b (List.mem_reverse.2 hkept)

theorem isSome_value?_of_decodeFrom {position : Nat} {decoded text raw : List UInt8}
    (h : decodeFrom position decoded text = .ok raw) :
    ∀ b ∈ text, b = pad ∨ (value? b).isSome = true := by
  fun_induction decodeFrom position decoded text with
  | case1 => simp
  | case2 => cases h
  | case3 position decoded a b c d rest more hgroup ih =>
    intro x hx
    rcases List.mem_append.1 (show x ∈ [a, b, c, d] ++ rest from hx) with hx | hx
    · exact isSome_value?_of_decodeGroup hgroup x hx
    · exact ih h x hx
  | case4 => cases h

/-- A text that is read holds symbols and padding only. -/
theorem isSome_value?_of_decode {text raw : List UInt8} (h : decode text = .ok raw) :
    ∀ b ∈ text, b = pad ∨ (value? b).isSome = true :=
  isSome_value?_of_decodeFrom h

end Gatehouse.Base64
