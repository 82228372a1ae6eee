import Gatehouse.Proofs.Http.Exchange
import Gatehouse.Proofs.Json.Documents

/-! # What a reply tells

    The gateway sees replies only.  From a status and a body it tells an accepted key from
    a rejected one, and either from everything else the service says; this is what
    `tellsVerdict_reply_iff` is about.  Why a request was refused stands in the body too,
    and `error?_refusal` reads it there.

    Core Lean 4 only. -/

namespace Gatehouse

/-! ## First keys -/

namespace Json

theorem exists_commas_cons (p : List Char) (ps : List (List Char)) :
    ∃ t, commas (p :: ps) = p ++ t := by
  cases ps with
  | nil => exact ⟨[], (List.append_nil p).symm⟩
  | cons q r => exact ⟨_, rfl⟩

/-- The text of an object starts with a brace and its first key. -/
theorem exists_render_object (k : String) (v : Json) (ms : List (String × Json)) :
    ∃ t, (render (.object ((k, v) :: ms))).toList = '\x7b' :: (renderString k ++ t) := by
  obtain ⟨t, ht⟩ := exists_commas_cons (renderString k ++ ':' :: renderChars v) (renderMembers ms)
  refine ⟨':' :: renderChars v ++ t ++ ['\x7d'], ?_⟩
  rw [render, String.toList_ofList, renderChars, renderMembers, ht]
  simp only [List.cons_append, List.append_assoc]

/-- Objects of one text have the same first key. -/
theorem eq_of_render_object {k k' : String} {v v' : Json} {ms ms' : List (String × Json)}
    (h : render (.object ((k, v) :: ms)) = render (.object ((k', v') :: ms'))) : k = k' := by
  obtain ⟨t, ht⟩ := exists_render_object k v ms
  obtain ⟨t', ht'⟩ := exists_render_object k' v' ms'
  rw [h, ht'] at ht
  exact (eq_of_renderString_append (List.tail_eq_of_cons_eq ht)).symm

end Json

namespace Http

/-! ## Verdicts -/

/-- The reply tells of a verdict on the offered key. -/
def Reply.TellsVerdict (reply : Reply) (success : Bool) : Prop :=
  reply.status = 200 ∧ reply.body = "\x7b\"success\":" ++ toString success ++ "\x7d"

instance (reply : Reply) (success : Bool) : Decidable (reply.TellsVerdict success) :=
  inferInstanceAs (Decidable (_ ∧ _))

theorem tellsVerdict_verdict (success : Bool) :
    (Answer.verdict success).reply.TellsVerdict success := by
  cases success <;> exact ⟨rfl, rfl⟩

/-- The body of a verdict as an object. -/
theorem verdict_body (success : Bool) :
    "\x7b\"success\":" ++ toString success ++ "\x7d" =
      (Json.object [("success", .boolean success)]).render := by
  cases success <;> rfl

theorem not_tellsVerdict_object {reply : Reply} {k : String} {v : Json}
    {ms : List (String × Json)} (hbody : reply.body = (Json.object ((k, v) :: ms)).render)
    (hk : k ≠ "success") (success : Bool) : ¬ reply.TellsVerdict success := by
  rintro ⟨-, h⟩
  rw [verdict_body, hbody] at h
  exact hk (Json.eq_of_render_object h)

/-- The metrics start with a line of help. -/
theorem head?_exposition (m : Metrics) : m.exposition.toList.head? = some '#' := by
  unfold Metrics.exposition Metrics.expositionIn
  rw [String.toList_join]
  rfl

/-- No answer but a verdict reads like one. -/
theorem tellsVerdict_reply_iff (a : Answer) (success : Bool) :
    a.reply.TellsVerdict success ↔ a = .verdict success := by
  constructor
  · intro h
    cases a with
    | route r => exact absurd h (not_tellsVerdict_object rfl (by decide) success)
    | verdict b =>
      have hb : b = success := by
        cases b <;> cases success <;> first | rfl | exact absurd h.2 (by decide)
      rw [hb]
    | refusal r => cases h.1
    | health ok detail => exact absurd h (not_tellsVerdict_object rfl (by decide) success)
    | metrics m =>
      -- The metrics are no JSON: they start with a comment.
      have hhead := head?_exposition m
      rw [show m.exposition = _ from h.2] at hhead
      cases success <;> cases hhead
    | notFound => cases h.1
    | methodNotAllowed allowed => cases h.1
  · rintro rfl
    exact tellsVerdict_verdict success

theorem not_tellsVerdict_of_empty {reply : Reply} (hbody : reply.body = "") {success : Bool} :
    ¬ reply.TellsVerdict success := by
  rintro ⟨-, h⟩
  rw [hbody] at h
  cases success <;> exact absurd h (by decide)

theorem Answer.IsOther.ne_verdict {s : Service} {m : Metrics} {a : Answer} (h : a.IsOther s m)
    {success : Bool} : a ≠ .verdict success := by
  cases h with
  | health =>
    unfold Service.health
    split
    · intro heq
      cases heq
    · intro heq
      cases heq
  | metrics => exact fun heq => by cases heq
  | notFound => exact fun heq => by cases heq
  | methodNotAllowed allowed => exact fun heq => by cases heq

/-! ## Errors -/

/-- The name of the error in the body of a refusal. -/
def Reply.error? (reply : Reply) : Option String :=
  if reply.status = 500 then
    match Json.parse? (Text.bytes reply.body) with
    | some (.object ms) =>
      match Json.lastMember "error" ms with
      | some (.string kind) => some kind
      | _                   => none
    | _                 => none
  else none

theorem error?_of_status {reply : Reply} (h : reply.status ≠ 500) : reply.error? = none := by
  unfold Reply.error?
  rw [if_neg h]

/-- The body of a refusal is read back as the two strings that were written. -/
theorem parse?_refusal (r : Refusal) :
    Json.parse? (Text.bytes (Answer.refusal r).reply.body) =
      some (.object [("error", .string r.kind), ("message", .string r.message)]) := by
  have hexact : Json.IsExact r.toJson := ⟨trivial, trivial, trivial⟩
  exact Json.parse?_render hexact

/-- A refusal tells its kind. -/
theorem error?_refusal (r : Refusal) : (Answer.refusal r).reply.error? = some r.kind := by
  have hstatus : (Answer.refusal r).reply.status = 500 := rfl
  unfold Reply.error?
  rw [if_pos hstatus, parse?_refusal]
  rfl

end Http

end Gatehouse
