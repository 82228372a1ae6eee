import Gatehouse.Proofs.Http.Routing
import Gatehouse.Proofs.Identity.Messages

/-! # What a refusal tells about a username

    A route request with a malformed username is refused with the message about it.  In the body
    the message is a string of JSON, so the username is quoted twice.  In a string of JSON no
    quote stands without a backslash either (`Json.isClosed_escaped`), and it is read back as the
    text that was written, so the body tells as much as the message does (`isTelling_bodyIn`).

    `malformed_usernames_told` says so of the messages and the bodies, whichever characters are
    shown as they are. -/

namespace Gatehouse

open Text

/-! ## Strings of JSON -/

namespace Json

theorem hexDigit_ne : ∀ n < 16, hexDigit n ≠ '"' ∧ hexDigit n ≠ '\\' := by decide

theorem isClosed_escaped (c : Char) : IsClosed (escaped c) := by
  unfold escaped
  split
  case h_8 hquote hslash _ _ _ _ _ =>
    split
    · rename_i hcontrol
      have hfirst := hexDigit_ne (c.toNat / 16) (by omega)
      have hlast := hexDigit_ne (c.toNat % 16) (by omega)
      exact (isClosed_escape 'u').append (isClosed_of_forall (by simp [hfirst, hlast]))
    · exact isClosed_of_forall (by simpa using ⟨hquote, hslash⟩)
  all_goals exact isClosed_escape _

theorem not_isControl_of_mem_escaped {c d : Char} (hc : ¬ IsControl c) (h : d ∈ escaped c) :
    ¬ IsControl d := by
  unfold escaped at h
  split at h
  case h_8 =>
    have hspace : ¬ c.toNat < 0x20 := fun hlt => hc (.inl hlt)
    rw [if_neg hspace] at h
    rwa [List.mem_singleton.1 h]
  all_goals
    -- What is left are backslashes with a letter.
    exact not_isControl_of_all (by decide) d h

end Json

/-! ## Bodies -/

namespace MalformedIdentity

/-- The body of a refusal if the characters that are shown as they are are these. -/
def bodyIn (plain : Char → Bool) (e : MalformedIdentity) : String :=
  (Json.object [("error", .string "malformed_identity"),
    ("message", .string (e.messageIn plain))]).render

/-- What stands in such a body before the message. -/
def bodyOpening : String := "\x7b\"error\":\"malformed_identity\",\"message\":\""

theorem reply_body (e : MalformedIdentity) :
    (Http.Answer.refusal (.malformedIdentity e)).reply.body = e.bodyIn isPlain := rfl

section
variable {plain : Char → Bool}

theorem toList_bodyIn (e : MalformedIdentity) :
    (e.bodyIn plain).toList = bodyOpening.toList ++
      ((e.messageIn plain).toList.flatMap Json.escaped ++ '"' :: "\x7d".toList) := by
  have hopening : bodyOpening.toList = '\x7b' :: (Json.renderString "error" ++
      ':' :: Json.renderString "malformed_identity" ++
        ',' :: (Json.renderString "message" ++ [':', '"'])) := by decide
  have hmessage : Json.renderString (e.messageIn plain) =
      '"' :: (e.messageIn plain).toList.flatMap Json.escaped ++ ['"'] := rfl
  rw [hopening, bodyIn, Json.render, String.toList_ofList, Json.renderChars, Json.renderMembers,
    Json.renderMembers, Json.renderMembers, Json.commas, Json.commas, Json.renderChars,
    Json.renderChars, hmessage]
  simp only [List.append_assoc, List.cons_append, List.nil_append]
  rfl

/-- A body is read back as the two strings that were written. -/
theorem parse?_bodyIn (e : MalformedIdentity) :
    Json.parse? (bytes (e.bodyIn plain)) =
      some (.object [("error", .string "malformed_identity"),
        ("message", .string (e.messageIn plain))]) := by
  have hexact : Json.IsExact (.object [("error", .string "malformed_identity"),
      ("message", .string (e.messageIn plain))]) := ⟨trivial, trivial, trivial⟩
  exact Json.parse?_render hexact

theorem bodyIn_injective {e e' : MalformedIdentity} (h : e.bodyIn plain = e'.bodyIn plain) :
    e.username = e'.username ∧ e.defect.reason = e'.defect.reason := by
  have hread := @parse?_bodyIn plain e
  rw [h, parse?_bodyIn] at hread
  simp only [Option.some.injEq, Json.object.injEq, List.cons.injEq, Prod.mk.injEq,
    Json.string.injEq] at hread
  exact messageIn_injective hread.2.1.2.symm

theorem not_isControl_bodyIn (hplain : ∀ c, plain c = true → ¬ IsControl c)
    (e : MalformedIdentity) : ∀ c ∈ (e.bodyIn plain).toList, ¬ IsControl c := by
  intro c hc
  rw [toList_bodyIn, List.mem_append, List.mem_append, List.mem_cons, List.mem_flatMap] at hc
  rcases hc with hc | ⟨d, hd, hc⟩ | rfl | hc
  · exact not_isControl_of_all (by decide) c hc
  · exact Json.not_isControl_of_mem_escaped (not_isControl_messageIn hplain e d hd) hc
  · decide
  · exact not_isControl_of_all (by decide) c hc

/-- The bodies tell the username and the reason. -/
theorem isTelling_bodyIn (hplain : ∀ c, plain c = true → ¬ IsControl c) :
    IsTelling (bodyIn plain) bodyOpening
      (fun e => (e.messageIn plain).toList.flatMap Json.escaped) (fun _ => "\x7d") where
  injective _ _ h := bodyIn_injective h
  not_isControl e := not_isControl_bodyIn hplain e
  quotation_ends e :=
    ⟨_, toList_bodyIn e, upToQuote_of_isClosed (isClosed_flatMap Json.isClosed_escaped _) _⟩

end

end MalformedIdentity

namespace Http.Service

open MalformedIdentity

/-- Messages about malformed usernames tell the username and the reason, and nothing can be
    forged in them.  Whichever characters are shown as they are, as long as there is no control
    among them:
    * two messages are the same only if their usernames and their reasons are; no message holds
      a control; and behind `malformed identity "` the first quote without a backslash is the
      one that ends the username, and the reason follows it;
    * the same holds of the bodies, in which the message itself ends at the first quote without a
      backslash, and from which it is read back as it was.
    The program writes its messages in this way.  A route request whose username cannot be taken
    apart is refused with this body for the username that was sent. -/
theorem malformed_usernames_told :
    (∀ plain : Char → Bool, (∀ c, plain c = true → ¬ IsControl c) →
      IsTelling (messageIn plain) "malformed identity \""
        (fun e => quotedCharsIn plain e.username) (fun e => ": " ++ e.defect.reason) ∧
      IsTelling (bodyIn plain) "\x7b\"error\":\"malformed_identity\",\"message\":\""
        (fun e => (e.messageIn plain).toList.flatMap Json.escaped) (fun _ => "\x7d") ∧
      ∀ e : MalformedIdentity, Json.parse? (bytes (e.bodyIn plain)) =
        some (.object [("error", .string "malformed_identity"),
          ("message", .string (e.messageIn plain))])) ∧
    (∀ c, isPlain c = true → ¬ IsControl c) ∧
    (∀ e : MalformedIdentity, e.message = e.messageIn isPlain) ∧
    ∀ (s : Service) (m : Metrics) (r : Request) (seconds : Float) (q : RouteRequest)
      (e : MalformedIdentity), r.posts "/config" → RouteRequest.ofBody r.body = .ok q →
      Identity.decode q.username = .error e →
      (s.reply m r seconds).1.status = 500 ∧
        (s.reply m r seconds).1.body = e.bodyIn isPlain ∧ e.username = q.username := by
  refine ⟨?_, fun c => not_isControl_of_isPlain, fun _ => rfl, ?_⟩
  · intro plain hplain
    exact ⟨isTelling_messageIn hplain, isTelling_bodyIn hplain, parse?_bodyIn⟩
  · intro s m r seconds q e hposts hbody hdecode
    rw [reply_of_decode_error hposts hbody hdecode]
    exact ⟨rfl, reply_body e, (Identity.decode_eq_error_iff.1 hdecode).1⟩

/-- A username that imitates the end of a message, and holds a line feed and a combining accent.
    It is refused for the empty owner, as the username that it imitates is; the bodies differ. -/
theorem malformed_usernames_told_imitation :
    let s : Service := ⟨.empty, ⟨"static", fun owner => .error (.notFound owner), .ok ()⟩⟩
    let request (username : String) : Request :=
      ⟨"POST", "/config", ⟨some "application/json",
        bytes ("\x7b\"username\":\"" ++ username ++ "\"\x7d")⟩⟩
    let body (username : String) : String := (s.reply s.initial (request username) 0.0).1.body
    body "#bob\\\": empty owner\\n\\u0301" =
        "\x7b\"error\":\"malformed_identity\",\"message\":\"malformed identity " ++
          "\\\"#bob\\\\\\\": empty owner\\\\n\\\\u\x7b301\x7d\\\": empty owner\"\x7d" ∧
      body "#bob\\\": empty owner\\n\\u0301" ≠ body "#bob" ∧
      ∀ c ∈ (body "#bob\\\": empty owner\\n\\u0301").toList, ¬ IsControl c := by
  intro s request body
  have hposts (username : String) : (request username).posts "/config" := by
    refine ⟨rfl, ?_⟩
    show String.ofList ("/config".toList.takeWhile (· ≠ '?')) = "/config"
    decide
  have hsent : RouteRequest.ofBody (request "#bob\\\": empty owner\\n\\u0301").body =
      .ok ⟨"#bob\": empty owner\n\u0301", "", "", ""⟩ := ok_of_toOption (by decide +kernel)
  have himitated : RouteRequest.ofBody (request "#bob").body = .ok ⟨"#bob", "", "", ""⟩ :=
    ok_of_toOption (by decide +kernel)
  have hdecode : Identity.decode "#bob\": empty owner\n\u0301" =
      .error ⟨"#bob\": empty owner\n\u0301", .emptyOwner⟩ := rfl
  have hdecode' : Identity.decode "#bob" = .error ⟨"#bob", .emptyOwner⟩ := rfl
  obtain ⟨htold, hplain, -, hreplies⟩ := malformed_usernames_told
  obtain ⟨-, htelling, -⟩ := htold isPlain hplain
  obtain ⟨-, hbody, -⟩ := hreplies s s.initial _ 0.0 _ _ (hposts _) hsent hdecode
  obtain ⟨-, hbody', -⟩ := hreplies s s.initial _ 0.0 _ _ (hposts _) himitated hdecode'
  refine ⟨hbody.trans (by decide +kernel), ?_, ?_⟩
  · intro hsame
    rw [show body _ = _ from hbody, show body _ = _ from hbody'] at hsame
    have husername := (htelling.injective _ _ hsame).1
    revert husername
    decide
  · rw [show body _ = _ from hbody]
    exact htelling.not_isControl _

end Http.Service

end Gatehouse
