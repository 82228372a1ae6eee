import Gatehouse.Proofs.Identity
import Mathlib.Data.List.TakeWhile
import Mathlib.Data.Set.Function

/-! # Usernames and the pairs they stand for

    Taking apart and putting together undo each other, on all texts on which either succeeds,
    and no two pairs share a username (`encode_inverse_decode`).

    A text with a delimiter is two texts joined of which the first has none (`exists_cut`),
    and what becomes of such a text is decided by its two sides alone (`decode_cut`).  Both
    ways of failing are read off from there: a pair that cannot be joined makes a text that
    cannot be taken apart, for a reason that fits (`decode_joined_of_encode`). -/

namespace Gatehouse.Identity

/-- Both sides of the delimiter can stand there. -/
def IsValid (i : Identity) : Prop := IsSegment i.owner ∧ IsSegment i.target

/-! ## Texts with and without a delimiter -/

theorem decode_of_not_mem {username : String} (h : delimiter ∉ username.toList) :
    decode username = .error ⟨username, .missingDelimiter⟩ := by
  obtain ⟨-, hdrop⟩ := cut_at_none h
  unfold decode
  simp only [hdrop]

/-- The first delimiter cuts a text in two. -/
theorem exists_cut {username : String} (h : delimiter ∈ username.toList) :
    ∃ owner target, delimiter ∉ owner.toList ∧ username = joined owner target := by
  obtain ⟨owner, target, hcut, howner⟩ := List.eq_append_cons_of_mem h
  refine ⟨String.ofList owner, String.ofList target, ?_, ?_⟩
  · rwa [String.toList_ofList]
  · apply String.toList_inj.1
    rw [toList_joined, hcut, String.toList_ofList, String.toList_ofList]

/-- What is made of a text is decided by the two sides of its first delimiter. -/
theorem decode_cut {owner : String} (h : delimiter ∉ owner.toList) (target : String) :
    decode (joined owner target) =
      if delimiter ∈ target.toList then .error ⟨joined owner target, .extraDelimiter⟩
      else if owner = "" then .error ⟨joined owner target, .emptyOwner⟩
      else if target = "" then .error ⟨joined owner target, .emptyTarget⟩
      else .ok ⟨owner, target⟩ := by
  obtain ⟨htake, hdrop⟩ := cut_at h target.toList
  unfold decode
  simp only [toList_joined, htake, hdrop, List.isEmpty_iff, String.toList_eq_nil_iff,
    String.ofList_toList]

/-- Exactly valid pairs are found in a username, and only in the one that joins them. -/
theorem decode_eq_ok_iff {username : String} {i : Identity} :
    decode username = .ok i ↔ i.IsValid ∧ username = joined i.owner i.target := by
  constructor
  · intro h
    by_cases hmem : delimiter ∈ username.toList
    · obtain ⟨owner, target, howner, rfl⟩ := exists_cut hmem
      rw [decode_cut howner] at h
      by_cases hextra : delimiter ∈ target.toList
      · rw [if_pos hextra] at h
        cases h
      · rw [if_neg hextra] at h
        by_cases hempty : owner = ""
        · rw [if_pos hempty] at h
          cases h
        · rw [if_neg hempty] at h
          by_cases hnone : target = ""
          · rw [if_pos hnone] at h
            cases h
          · rw [if_neg hnone] at h
            obtain rfl := Except.ok.inj h
            exact ⟨⟨⟨hempty, howner⟩, hnone, hextra⟩, rfl⟩
    · rw [decode_of_not_mem hmem] at h
      cases h
  · rintro ⟨⟨howner, htarget⟩, rfl⟩
    exact decode_joined howner htarget

/-- A username says who it was made for, and nobody else. -/
theorem decode_eq_ok_iff_encode {owner target username : String} :
    decode username = .ok ⟨owner, target⟩ ↔ encode owner target = .ok username := by
  rw [decode_eq_ok_iff, encode_eq_ok_iff]
  exact and_assoc

/-! ## Failing together -/

/-- A second delimiter after the first one, wherever the first one is. -/
theorem decode_joined_of_mem {owner target : String}
    (h : delimiter ∈ owner.toList ∨ delimiter ∈ target.toList) :
    decode (joined owner target) = .error ⟨joined owner target, .extraDelimiter⟩ := by
  by_cases howner : delimiter ∈ owner.toList
  · -- The text is cut inside the owner, so the delimiter that joins it comes second.
    obtain ⟨before, after, hbefore, rfl⟩ := exists_cut howner
    have hcut : joined (joined before after) target = joined before (joined after target) := by
      apply String.toList_inj.1
      simp only [toList_joined, List.append_assoc, List.cons_append]
    have hextra : delimiter ∈ (joined after target).toList := by
      rw [toList_joined]
      exact List.mem_append_right _ List.mem_cons_self
    rw [hcut, decode_cut hbefore, if_pos hextra]
  · have htarget : delimiter ∈ target.toList := h.resolve_left howner
    rw [decode_cut howner, if_pos htarget]

/-- How a defect of two segments looks once they are joined: which of the delimiters joins
    them can no longer be told. -/
def onceJoined : Defect → Defect
  | .delimiterInSegment => .extraDelimiter
  | d                   => d

/-- What can be wrong with two segments. -/
def segmentDefects : List Defect := [.delimiterInSegment, .emptyOwner, .emptyTarget]

/-- Segments that cannot be joined make a text that cannot be taken apart. -/
theorem decode_joined_of_encode {owner target : String} {e : MalformedIdentity}
    (h : encode owner target = .error e) :
    e.username = joined owner target ∧ e.defect ∈ segmentDefects ∧
      decode (joined owner target) = .error ⟨joined owner target, onceJoined e.defect⟩ := by
  unfold encode at h
  simp only [String.isEmpty_iff] at h
  by_cases hmem : delimiter ∈ owner.toList ∨ delimiter ∈ target.toList
  · rw [if_pos hmem] at h
    obtain rfl := Except.error.inj h
    have hdefect : Defect.delimiterInSegment ∈ segmentDefects := by decide
    exact ⟨rfl, hdefect, decode_joined_of_mem hmem⟩
  · rw [if_neg hmem] at h
    obtain ⟨howner, htarget⟩ := not_or.1 hmem
    have hdecode := decode_cut howner target
    rw [if_neg htarget] at hdecode
    by_cases hempty : owner = ""
    · rw [if_pos hempty] at h hdecode
      obtain rfl := Except.error.inj h
      have hdefect : Defect.emptyOwner ∈ segmentDefects := by decide
      exact ⟨rfl, hdefect, hdecode⟩
    · rw [if_neg hempty] at h hdecode
      by_cases hnone : target = ""
      · rw [if_pos hnone] at h hdecode
        obtain rfl := Except.error.inj h
        have hdefect : Defect.emptyTarget ∈ segmentDefects := by decide
        exact ⟨rfl, hdefect, hdecode⟩
      · rw [if_neg hnone] at h
        cases h

/-! ## Inverses -/

/-- Usernames are put together and taken apart without loss:
    * exactly two segments can be joined;
    * a username is made from a pair if and only if the pair is found in it;
    * so the valid pairs and the usernames that can be taken apart stand for each other, one
      to one;
    * a pair that cannot be joined makes a text that cannot be taken apart.  Both errors name
      that text, and their reasons agree. -/
theorem encode_inverse_decode :
    (∀ owner target, (∃ username, encode owner target = .ok username) ↔
      IsSegment owner ∧ IsSegment target) ∧
    (∀ owner target username, encode owner target = .ok username ↔
      decode username = .ok ⟨owner, target⟩) ∧
    Set.BijOn (fun i : Identity => encode i.owner i.target) {i | i.IsValid}
      (Except.ok '' {username | ∃ i, decode username = .ok i}) ∧
    ∀ owner target e, encode owner target = .error e →
      ∃ e', decode (joined owner target) = .error e' ∧ e.username = joined owner target ∧
        e'.username = joined owner target ∧
        (e.defect.reason, e'.defect.reason) ∈
          [("empty owner", "empty owner"), ("empty backend target", "empty backend target"),
            ("segment contains delimiter", "more than one delimiter")] := by
  refine ⟨?_, ?_, ?_, ?_⟩
  · intro owner target
    constructor
    · rintro ⟨username, h⟩
      obtain ⟨howner, htarget, -⟩ := encode_eq_ok_iff.1 h
      exact ⟨howner, htarget⟩
    · rintro ⟨howner, htarget⟩
      exact ⟨_, encode_eq_ok_iff.2 ⟨howner, htarget, rfl⟩⟩
  · intro owner target username
    exact decode_eq_ok_iff_encode.symm
  · have hencode {i : Identity} (hi : i.IsValid) :
        encode i.owner i.target = .ok (joined i.owner i.target) :=
      encode_eq_ok_iff.2 ⟨hi.1, hi.2, rfl⟩
    refine ⟨?_, ?_, ?_⟩
    · intro i hi
      exact ⟨_, ⟨i, decode_joined hi.1 hi.2⟩, (hencode hi).symm⟩
    · -- Both pairs are what is found in the one username.
      intro i hi i' _ heq
      have hfound : decode (joined i.owner i.target) = .ok i := decode_joined hi.1 hi.2
      have hsame : encode i'.owner i'.target = .ok (joined i.owner i.target) :=
        heq.symm.trans (hencode hi)
      have hfound' := decode_eq_ok_iff_encode.2 hsame
      rw [hfound] at hfound'
      exact Except.ok.inj hfound'
    · rintro _ ⟨username, ⟨i, hdecode⟩, rfl⟩
      exact ⟨i, (decode_eq_ok_iff.1 hdecode).1, decode_eq_ok_iff_encode.1 hdecode⟩
  · intro owner target e h
    obtain ⟨husername, hdefect, hdecode⟩ := decode_joined_of_encode h
    refine ⟨_, hdecode, husername, rfl, ?_⟩
    have hreasons : ∀ d ∈ segmentDefects, (d.reason, (onceJoined d).reason) ∈
        [("empty owner", "empty owner"), ("empty backend target", "empty backend target"),
          ("segment contains delimiter", "more than one delimiter")] := by decide
    exact hreasons _ hdefect

end Gatehouse.Identity
