import Gatehouse.Proofs.Metrics.Durations

/-! # Finite durations have a bucket

    The last bucket ends with the greatest float, so a duration falls into some bucket as long
    as it is a finite number (`fits_of_isFinite`).  This is read off the bits of a float: a
    mantissa of 53 bits and an exponent of eleven, of which the greatest is kept for what is not
    finite (`bounds_of_unpack`). -/

namespace Gatehouse.Histogram

open Float.Model

/-- What a finite float can be: no mantissa and no exponent goes beyond these. -/
theorem bounds_of_unpack {v : Float.Model} {s : UnpackedFloat.Sign} {m : Nat} {e : Int}
    {hm : 0 < m} (h : v.unpack = .finite s m e hm) : m ≤ 9007199254740991 ∧ e ≤ 971 := by
  have hmantissa := (@UnpackedFloat.unpackMantissa Format.binary64 v.toBits.toBitVec).isLt
  have hexponent := (@UnpackedFloat.unpackExponent Format.binary64 v.toBits.toBitVec).isLt
  unfold Float.Model.unpack UnpackedFloat.unpack at h
  dsimp only at h
  rcases ite_eq_iff.1 h with ⟨-, h⟩ | ⟨hspecial, h⟩
  · rcases ite_eq_iff.1 h with ⟨-, h⟩ | ⟨-, h⟩ <;> cases h
  rcases ite_eq_iff.1 h with ⟨hzero, h⟩ | ⟨-, h⟩
  · -- Without an exponent the mantissa has no leading one either.
    by_cases hnone : @UnpackedFloat.unpackMantissa Format.binary64 v.toBits.toBitVec =
        BitVec.ofNat Format.binary64.mantissaBitsWithoutImplicit 0
    · rw [dif_pos hnone] at h
      cases h
    · rw [dif_neg hnone] at h
      cases h
      change _ < 4503599627370496 at hmantissa
      rw [hzero]
      exact ⟨by omega, by decide⟩
  · cases h
    have hne : (@UnpackedFloat.unpackExponent Format.binary64 v.toBits.toBitVec).toNat ≠ 2047 :=
      fun heq => hspecial (BitVec.eq_of_toNat_eq heq)
    rw [BitVec.toNat_append, ← Nat.shiftLeft_add_eq_or_of_lt hmantissa]
    change _ < 4503599627370496 at hmantissa
    change _ < 2048 at hexponent
    change 4503599627370496 + _ ≤ _ ∧ (_ : Int) - 1075 ≤ _
    exact ⟨by omega, by omega⟩

/-- The greatest float reaches both bounds. -/
theorem unpack_greatest : ∃ h, (Float.ofBits 0x7fefffffffffffff).toModel.unpack =
    .finite .positive 9007199254740991 971 h := ⟨by decide, rfl⟩

/-- No finite float is greater than the greatest one. -/
theorem le_greatest {x : Float} (h : x.isFinite = true) : x ≤ Float.ofBits 0x7fefffffffffffff := by
  obtain ⟨hpos, hgreatest⟩ := unpack_greatest
  show decide (x.toModel ≤ (Float.ofBits 0x7fefffffffffffff).toModel) = true
  rw [decide_eq_true_iff]
  show x.toModel.unpack.le (Float.ofBits 0x7fefffffffffffff).toModel.unpack = true
  rw [hgreatest]
  change x.toModel.unpack.isFinite = true at h
  cases hx : x.toModel.unpack with
  | infinity s =>
    rw [hx] at h
    cases h
  | notANumber =>
    rw [hx] at h
    cases h
  | zero s => rfl
  | finite s m e hm =>
    cases s with
    | negative => rfl
    | positive =>
      obtain ⟨hmantissa, hexponent⟩ := bounds_of_unpack hx
      have hm' : (compare m 9007199254740991).isLE = true := Std.isLE_compare.2 hmantissa
      have he' : (compare e 971).isLE = true := Std.isLE_compare.2 hexponent
      -- Positive floats are compared by their exponents first.
      show ((compare e 971).then (compare m 9007199254740991)).isLE = true
      rw [Ordering.isLE_then_iff_and]
      exact ⟨he', .inr hm'⟩

theorem fits_of_isFinite {x : Float} (h : x.isFinite = true) : Fits x :=
  ⟨_, List.mem_append_right _ List.mem_cons_self, le_greatest h⟩

end Gatehouse.Histogram
