import Gatehouse.Proofs.Identity.Delimiters
import Gatehouse.Proofs.Text.Quoted

/-! # What a message about a username tells

    The message about a malformed username shows the username between quotes and gives the
    reason.  Whichever characters are shown as they are, the message tells both
    (`messageIn_injective`): no username can pass for the end of its own quotation and for what
    follows it.

    `IsTelling` says this of any texts about malformed usernames that have a part between
    quotes. -/

namespace Gatehouse

open Text

/-- Texts about malformed usernames, each with an opening, a part up to a quote and a closing,
    that tell what they are about. -/
structure IsTelling (text : MalformedIdentity → String) (opening : String)
    (quotation : MalformedIdentity → List Char) (closing : MalformedIdentity → String) : Prop where
  /-- A text is about one username, and it gives one reason. -/
  injective : ∀ e e', text e = text e' →
    e.username = e'.username ∧ e.defect.reason = e'.defect.reason
  not_isControl : ∀ e, ∀ c ∈ (text e).toList, ¬ IsControl c
  /-- Behind the opening, the first quote without a backslash is the one before the closing. -/
  quotation_ends : ∀ e, ∃ t, (text e).toList = opening.toList ++ t ∧
    upToQuote t = some (quotation e, (closing e).toList)

namespace MalformedIdentity

section
variable {plain : Char → Bool}

theorem toList_messageIn (e : MalformedIdentity) :
    (e.messageIn plain).toList = "malformed identity \"".toList ++
      (quotedCharsIn plain e.username ++ '"' :: (": " ++ e.defect.reason).toList) := by
  have hopening : "malformed identity \"".toList = "malformed identity ".toList ++ ['"'] := by
    decide
  unfold messageIn
  rw [hopening, String.toList_append, String.toList_append, String.toList_append,
    String.toList_append, toList_quotedIn]
  simp only [List.append_assoc, List.cons_append, List.nil_append]

theorem messageIn_injective {e e' : MalformedIdentity}
    (h : e.messageIn plain = e'.messageIn plain) :
    e.username = e'.username ∧ e.defect.reason = e'.defect.reason := by
  have hlist := congrArg String.toList h
  rw [toList_messageIn, toList_messageIn] at hlist
  obtain ⟨husername, hrest⟩ := quotedCharsIn_cancel (List.append_cancel_left hlist)
  rw [String.toList_append, String.toList_append] at hrest
  exact ⟨husername, String.toList_inj.1 (List.append_cancel_left hrest)⟩

theorem not_isControl_messageIn (hplain : ∀ c, plain c = true → ¬ IsControl c)
    (e : MalformedIdentity) : ∀ c ∈ (e.messageIn plain).toList, ¬ IsControl c := by
  intro c hc
  rw [toList_messageIn, List.mem_append, List.mem_append, List.mem_cons] at hc
  rcases hc with hc | hc | rfl | hc
  · exact not_isControl_of_all (by decide) c hc
  · exact not_isControl_quotedCharsIn hplain e.username c hc
  · decide
  · have hall : ∀ d : Defect,
        ((": " ++ d.reason).toList.all fun c => decide (¬ IsControl c)) = true := by
      intro d
      cases d <;> decide
    exact not_isControl_of_all (hall e.defect) c hc

/-- The messages tell the username and the reason. -/
theorem isTelling_messageIn (hplain : ∀ c, plain c = true → ¬ IsControl c) :
    IsTelling (messageIn plain) "malformed identity \"" (fun e => quotedCharsIn plain e.username)
      (fun e => ": " ++ e.defect.reason) where
  injective _ _ h := messageIn_injective h
  not_isControl e := not_isControl_messageIn hplain e
  quotation_ends e :=
    ⟨_, toList_messageIn e, upToQuote_of_isClosed (isClosed_quotedCharsIn e.username) _⟩

end

end MalformedIdentity

end Gatehouse
