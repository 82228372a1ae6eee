import Gatehouse.Identity
import Gatehouse.Proofs.First

/-! # Usernames that name somebody

    A segment is what can stand on one side of the delimiter: some text without a
    delimiter.  Two segments joined are taken apart again (`decode_joined`), and segments
    are all that is ever joined (`encode_eq_ok_iff`).

    Core Lean 4 only. -/

namespace Gatehouse.Identity

/-- Text without a delimiter. -/
def IsSegment (s : String) : Prop := s ≠ "" ∧ delimiter ∉ s.toList

theorem isSegment_ne_nil {s : String} (h : IsSegment s) : s.toList ≠ [] :=
  fun hnil => h.1 (String.toList_eq_nil_iff.1 hnil)

theorem toList_joined (owner target : String) :
    (joined owner target).toList = owner.toList ++ delimiter :: target.toList := by
  simp [joined]

/-- Two segments joined are taken apart again. -/
theorem decode_joined {owner target : String} (ho : IsSegment owner) (ht : IsSegment target) :
    decode (joined owner target) = .ok ⟨owner, target⟩ := by
  obtain ⟨htake, hdrop⟩ := cut_at ho.2 target.toList
  have howner : owner.toList.isEmpty = false := by simpa using isSegment_ne_nil ho
  have htarget : target.toList.isEmpty = false := by simpa using isSegment_ne_nil ht
  unfold decode
  simp only [toList_joined, htake, hdrop, if_neg ht.2, howner, htarget, Bool.false_eq_true,
    if_false, String.ofList_toList]

/-- Exactly segments are joined. -/
theorem encode_eq_ok_iff {owner target username : String} :
    encode owner target = .ok username ↔
      IsSegment owner ∧ IsSegment target ∧ username = joined owner target := by
  unfold encode IsSegment
  simp only [String.isEmpty_iff]
  by_cases hd : delimiter ∈ owner.toList ∨ delimiter ∈ target.toList
  · rw [if_pos hd]
    constructor
    · intro h
      cases h
    · rintro ⟨⟨-, ho⟩, ⟨-, ht⟩, -⟩
      exact absurd hd (not_or.2 ⟨ho, ht⟩)
  · obtain ⟨ho, ht⟩ := not_or.1 hd
    rw [if_neg hd]
    by_cases howner : owner = ""
    · simp [howner]
    · by_cases htarget : target = ""
      · simp [howner, htarget]
      · simp [howner, htarget, ho, ht, eq_comm]

end Gatehouse.Identity
