import Gatehouse.Proofs.Identity.Inverse

/-! # Usernames by their delimiters

    A text is cut at its first delimiter, and then the two sides are looked at in turn.  What
    comes of it can be told from the whole text: from the number of its delimiters and, if
    there is one, from what stands on either side of it (`decode_by_delimiters`).

    `HasDefect` says so for each of the defects, and `decode_eq_error_iff` that these are the
    texts which cannot be taken apart. -/

namespace Gatehouse.Identity

/-! ## Counting delimiters -/

theorem count_joined (owner target : String) :
    (joined owner target).toList.count delimiter =
      owner.toList.count delimiter + target.toList.count delimiter + 1 := by
  rw [toList_joined, List.count_append, List.count_cons_self]
  omega

/-- One delimiter joins two texts that have none. -/
theorem count_joined_eq_one_iff {owner target : String} :
    (joined owner target).toList.count delimiter = 1 ↔
      delimiter ∉ owner.toList ∧ delimiter ∉ target.toList := by
  rw [count_joined, ← List.count_eq_zero, ← List.count_eq_zero]
  omega

/-- A text with delimiters has as many as follow the first one, and this one. -/
theorem exists_cut_of_count {username : String} (h : username.toList.count delimiter ≠ 0) :
    ∃ owner target, delimiter ∉ owner.toList ∧ username = joined owner target ∧
      username.toList.count delimiter = target.toList.count delimiter + 1 := by
  have hmem : delimiter ∈ username.toList := List.count_pos_iff.1 (Nat.pos_of_ne_zero h)
  obtain ⟨owner, target, howner, rfl⟩ := exists_cut hmem
  refine ⟨owner, target, howner, rfl, ?_⟩
  rw [count_joined, List.count_eq_zero.2 howner, Nat.zero_add]

/-! ## Defects -/

/-- What is wrong with a text as a username, told by its delimiters. -/
inductive HasDefect (username : String) : Defect → Prop where
  /-- There is none. -/
  | missing (h : username.toList.count delimiter = 0) : HasDefect username .missingDelimiter
  /-- There are several, wherever they stand. -/
  | extra (h : 2 ≤ username.toList.count delimiter) : HasDefect username .extraDelimiter
  /-- There is one, right at the start. -/
  | noOwner {target : String} (h : username.toList.count delimiter = 1)
      (hcut : username = joined "" target) : HasDefect username .emptyOwner
  /-- There is one, at the end of some text. -/
  | noTarget {owner : String} (h : username.toList.count delimiter = 1) (howner : owner ≠ "")
      (hcut : username = joined owner "") : HasDefect username .emptyTarget

section
variable {username : String}

theorem hasDefect_missing_iff :
    HasDefect username .missingDelimiter ↔ username.toList.count delimiter = 0 :=
  ⟨fun | .missing h => h, .missing⟩

theorem hasDefect_extra_iff :
    HasDefect username .extraDelimiter ↔ 2 ≤ username.toList.count delimiter :=
  ⟨fun | .extra h => h, .extra⟩

theorem hasDefect_noOwner_iff :
    HasDefect username .emptyOwner ↔
      username.toList.count delimiter = 1 ∧ ∃ target, username = "#" ++ target := by
  have hstart (target : String) : joined "" target = "#" ++ target := by
    apply String.toList_injective
    rw [toList_joined, String.toList_append]
    rfl
  constructor
  · rintro ⟨⟩
    rename_i target h hcut
    exact ⟨h, target, hcut.trans (hstart target)⟩
  · rintro ⟨h, target, hcut⟩
    exact .noOwner h (hcut.trans (hstart target).symm)

theorem hasDefect_noTarget_iff :
    HasDefect username .emptyTarget ↔
      username.toList.count delimiter = 1 ∧ ∃ owner, owner ≠ "" ∧ username = owner ++ "#" := by
  have hend (owner : String) : joined owner "" = owner ++ "#" := by
    apply String.toList_injective
    rw [toList_joined, String.toList_append]
    rfl
  constructor
  · rintro ⟨⟩
    rename_i owner h howner hcut
    exact ⟨h, owner, howner, hcut.trans (hend owner)⟩
  · rintro ⟨h, owner, howner, hcut⟩
    exact .noTarget h howner (hcut.trans (hend owner).symm)

end

/-- A text that has a defect cannot be taken apart. -/
theorem HasDefect.decode_eq {username : String} {d : Defect} (h : HasDefect username d) :
    decode username = .error ⟨username, d⟩ := by
  cases h with
  | missing h => exact decode_of_not_mem (List.count_eq_zero.1 h)
  | extra h =>
    -- The cut is at the first of them, so that another one is left behind it.
    have hsome : username.toList.count delimiter ≠ 0 := by omega
    obtain ⟨owner, target, howner, rfl, hcount⟩ := exists_cut_of_count hsome
    have htarget : delimiter ∈ target.toList := List.count_pos_iff.1 (by omega)
    rw [decode_cut howner, if_pos htarget]
  | noOwner h hcut =>
    subst hcut
    obtain ⟨hnone, htarget⟩ := count_joined_eq_one_iff.1 h
    rw [decode_cut hnone, if_neg htarget, if_pos rfl]
  | noTarget h howner hcut =>
    subst hcut
    obtain ⟨hnone, htarget⟩ := count_joined_eq_one_iff.1 h
    rw [decode_cut hnone, if_neg htarget, if_neg howner, if_pos rfl]

/-- Every text has a defect or two sides. -/
theorem hasDefect_or_joined (username : String) :
    (∃ d, HasDefect username d) ∨ ∃ i : Identity, i.IsValid ∧ username = joined i.owner i.target := by
  -- The defects are looked for in the order in which the text is checked for them.
  by_cases hnone : username.toList.count delimiter = 0
  · exact .inl ⟨_, .missing hnone⟩
  obtain ⟨owner, target, howner, hcut, hcount⟩ := exists_cut_of_count hnone
  by_cases hextra : 2 ≤ username.toList.count delimiter
  · exact .inl ⟨_, .extra hextra⟩
  have hone : username.toList.count delimiter = 1 := by omega
  by_cases hempty : owner = ""
  · exact .inl ⟨_, .noOwner hone (hempty ▸ hcut)⟩
  by_cases hend : target = ""
  · exact .inl ⟨_, .noTarget hone hempty (hend ▸ hcut)⟩
  have htarget : delimiter ∉ target.toList := List.count_eq_zero.1 (by omega)
  exact .inr ⟨⟨owner, target⟩, ⟨⟨hempty, howner⟩, hend, htarget⟩, hcut⟩

/-- A text cannot be taken apart if it has a defect, and only then.  The error names the text and
    the defect. -/
theorem decode_eq_error_iff {username : String} {e : MalformedIdentity} :
    decode username = .error e ↔ e.username = username ∧ HasDefect username e.defect := by
  constructor
  · intro h
    rcases hasDefect_or_joined username with ⟨d, hd⟩ | ⟨i, hi⟩
    · rw [hd.decode_eq] at h
      obtain rfl := Except.error.inj h
      exact ⟨rfl, hd⟩
    · rw [decode_eq_ok_iff.2 hi] at h
      cases h
  · rintro ⟨rfl, hd⟩
    exact hd.decode_eq

/-! ## All usernames -/

/-- Is the text refused as a username, for a reason given in these words?  The refusal repeats the
    text as it is. -/
def IsRefusedAs (username reason : String) : Prop :=
  ∃ e, decode username = .error e ∧ e.username = username ∧ e.defect.reason = reason

/-- The words for a defect are used for no other one. -/
theorem reason_injective : Function.Injective Defect.reason := by
  intro d d' h
  cases d <;> cases d' <;> simp [Defect.reason] at h ⊢

theorem isRefusedAs_reason_iff {username : String} {d : Defect} :
    IsRefusedAs username d.reason ↔ HasDefect username d := by
  constructor
  · rintro ⟨e, he, -, hreason⟩
    rw [← reason_injective hreason]
    exact (decode_eq_error_iff.1 he).2
  · intro hd
    exact ⟨⟨username, d⟩, hd.decode_eq, rfl, rfl⟩

/-- What is made of a text as a username, by the number of its delimiters:
    * none: it is refused for the missing delimiter;
    * two or more: for that, whatever stands around them;
    * one with nothing before it: for the empty owner, whether or not something follows;
    * one with some text before it and nothing after it: for the empty target;
    * one with some text on both sides: it is taken apart there, and neither side is altered.
    A text is refused for no other reason, and every refusal repeats it as it is. -/
theorem decode_by_delimiters (username : String) :
    (IsRefusedAs username "missing delimiter" ↔ username.toList.count '#' = 0) ∧
    (IsRefusedAs username "more than one delimiter" ↔ 2 ≤ username.toList.count '#') ∧
    (IsRefusedAs username "empty owner" ↔
      username.toList.count '#' = 1 ∧ ∃ target, username = "#" ++ target) ∧
    (IsRefusedAs username "empty backend target" ↔
      username.toList.count '#' = 1 ∧ ∃ owner, owner ≠ "" ∧ username = owner ++ "#") ∧
    (∀ owner target, decode username = .ok ⟨owner, target⟩ ↔
      username.toList.count '#' = 1 ∧ owner ≠ "" ∧ target ≠ "" ∧
        username = owner ++ "#" ++ target) ∧
    ∀ e, decode username = .error e → e.username = username ∧
      e.defect.reason ∈ ["missing delimiter", "more than one delimiter", "empty owner",
        "empty backend target"] := by
  refine ⟨?_, ?_, ?_, ?_, ?_, ?_⟩
  · exact isRefusedAs_reason_iff.trans hasDefect_missing_iff
  · exact isRefusedAs_reason_iff.trans hasDefect_extra_iff
  · exact isRefusedAs_reason_iff.trans hasDefect_noOwner_iff
  · exact isRefusedAs_reason_iff.trans hasDefect_noTarget_iff
  · intro owner target
    rw [decode_eq_ok_iff]
    constructor
    · rintro ⟨⟨howner, htarget⟩, rfl⟩
      exact ⟨count_joined_eq_one_iff.2 ⟨howner.2, htarget.2⟩, howner.1, htarget.1, rfl⟩
    · rintro ⟨hone, howner, htarget, rfl⟩
      obtain ⟨hbefore, hafter⟩ := count_joined_eq_one_iff.1 hone
      exact ⟨⟨⟨howner, hbefore⟩, htarget, hafter⟩, rfl⟩
  · intro e he
    obtain ⟨husername, hd⟩ := decode_eq_error_iff.1 he
    refine ⟨husername, ?_⟩
    -- Of the five defects, the one that has no place here is that of two segments.
    generalize e.defect = d at hd
    cases hd <;> decide

end Gatehouse.Identity
