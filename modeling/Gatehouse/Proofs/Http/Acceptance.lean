import Gatehouse.Proofs.Http.Reply
import Gatehouse.Proofs.Result
import Gatehouse.Proofs.Verdict

/-! # Whom the service lets in

    A key is accepted in one way only.  The request is a key check that can be taken apart
    down to two blobs, the one offered and the one registered (`Decides`), and the blobs are
    the same (`tellsVerdict_iff`).  Nothing that was answered before has a part in it, so
    this holds of every reply of every run.

    Core Lean 4 only. -/

namespace Gatehouse.Http.Service

/-- All that a verdict needs is there: the request is a key check whose body is taken, its
    username names an owner with a record, and its line holds a key. -/
structure Decides (s : Service) (r : Request) (record : UserRecord) (offered : AuthorizedKey) :
    Prop where
  posts  : r.posts "/pubkey"
  stages : ∃ q identity, KeyRequest.ofBody r.body = .ok q ∧
    Identity.decode q.username = .ok identity ∧ s.store.lookup identity.owner = .ok record ∧
    AuthorizedKey.parse q.publicKey = .ok offered

section exchange
variable {s : Service} {m : Metrics} {r : Request} {seconds : Float}

/-! ## Key checks -/

/-- A key check that can be decided is answered by comparing the two blobs. -/
theorem pubkey_of_decides {record : UserRecord} {offered : AuthorizedKey}
    (h : s.Decides r record offered) :
    (s.pubkey m r.body seconds).1 = .verdict (decide (offered.blob = record.key)) := by
  obtain ⟨q, identity, hbody, hdecode, hlookup, hline⟩ := h.stages
  rw [pubkey_of_verdict s m seconds hbody (verify_of_line hdecode hlookup hline)]

variable (s m seconds) in
/-- A key check is decided or refused. -/
theorem pubkey_cases (h : r.posts "/pubkey") :
    (∃ record offered, s.Decides r record offered) ∨
      ∃ refusal, (s.pubkey m r.body seconds).1 = .refusal refusal := by
  cases hbody : KeyRequest.ofBody r.body with
  | error fault =>
    right
    exact ⟨_, by rw [pubkey_of_badRequest s m seconds hbody]⟩
  | ok q =>
    cases hverify : verify s.store q.username q.publicKey with
    | error cause =>
      right
      exact ⟨_, by rw [pubkey_of_undecided s m seconds hbody hverify]⟩
    | ok success =>
      left
      obtain ⟨identity, record, offered, hdecode, hlookup, hline, -⟩ := verify_eq_ok_iff.1 hverify
      exact ⟨record, offered, h, q, identity, hbody, hdecode, hlookup, hline⟩

/-! ## Replies -/

theorem reply_of_decides {record : UserRecord} {offered : AuthorizedKey}
    (h : s.Decides r record offered) :
    (s.reply m r seconds).1.TellsVerdict (decide (offered.blob = record.key)) := by
  rw [reply_of_posts s m seconds h.posts, answer_pubkey s m seconds h.posts]
  show (s.pubkey m r.body seconds).1.reply.TellsVerdict _
  rw [pubkey_of_decides h]
  exact tellsVerdict_verdict _

/-- A key check that cannot be decided is refused. -/
theorem reply_of_not_decides (h : r.posts "/pubkey")
    (hnone : ∀ record offered, ¬ s.Decides r record offered) :
    (s.reply m r seconds).1.status = 500 := by
  rw [reply_of_posts s m seconds h, answer_pubkey s m seconds h]
  rcases pubkey_cases s m seconds h with ⟨record, offered, hdecides⟩ | ⟨refusal, hrefusal⟩
  · exact absurd hdecides (hnone record offered)
  · show (s.pubkey m r.body seconds).1.reply.status = 500
    rw [hrefusal]
    rfl

/-- A route request is never told of a verdict. -/
theorem config_ne_verdict (body : Body) (success : Bool) :
    (s.config m body).1 ≠ .verdict success := by
  rcases s.config_cases m body with ⟨refusal, h⟩ | ⟨route, h⟩
  · rw [h]
    exact Answer.noConfusion
  · rw [h]
    exact Answer.noConfusion

/-- Nothing but a key check is told of a verdict. -/
theorem posts_of_tellsVerdict {success : Bool}
    (h : (s.reply m r seconds).1.TellsVerdict success) : r.posts "/pubkey" := by
  by_cases hpubkey : r.posts "/pubkey"
  · exact hpubkey
  · exfalso
    by_cases hconfig : r.posts "/config"
    · rw [reply_of_posts s m seconds hconfig, answer_config s m seconds hconfig] at h
      exact config_ne_verdict _ _ ((tellsVerdict_reply_iff _ _).1 h)
    · obtain ⟨a, reply, hreply, hother, hsent⟩ := s.reply_of_not_posts m seconds hconfig hpubkey
      rw [hreply] at h
      -- The reply is sent whole, or its head alone, whose body is empty.
      rcases hsent with rfl | rfl
      · exact hother.ne_verdict ((tellsVerdict_reply_iff _ _).1 h)
      · exact not_tellsVerdict_of_empty rfl h

/-- The replies that tell of a verdict are those to decided key checks. -/
theorem tellsVerdict_iff {success : Bool} :
    (s.reply m r seconds).1.TellsVerdict success ↔
      ∃ record offered, s.Decides r record offered ∧
        success = decide (offered.blob = record.key) := by
  constructor
  · intro h
    have hposts := posts_of_tellsVerdict h
    rw [reply_of_posts s m seconds hposts, answer_pubkey s m seconds hposts] at h
    have hverdict := (tellsVerdict_reply_iff _ _).1 h
    rcases pubkey_cases s m seconds hposts with ⟨record, offered, hdecides⟩ | ⟨refusal, hrefusal⟩
    · rw [pubkey_of_decides hdecides] at hverdict
      exact ⟨record, offered, hdecides, (Answer.verdict.inj hverdict).symm⟩
    · rw [hrefusal] at hverdict
      cases hverdict
  · rintro ⟨record, offered, hdecides, rfl⟩
    exact reply_of_decides hdecides

end exchange

/-! ## Runs -/

/-- Every request of a run has a reply, and the replies that accept a key are exactly those to
    key checks whose username names an owner with the offered key's blob on record.  If the
    record has another blob, the reply is a rejection; a key check that does not get so far
    is refused. -/
theorem run_accepts_registered (s : Service) (rs : List (Request × Float)) {i : Nat} {r : Request}
    {seconds : Float} (hr : rs[i]? = some (r, seconds)) :
    ∃ reply, (s.run s.initial rs).1[i]? = some reply ∧
      (reply.status = 200 ∧ reply.body = "\x7b\"success\":true\x7d" ↔
        ∃ record offered, s.Decides r record offered ∧ offered.blob = record.key) ∧
      (∀ record offered, s.Decides r record offered → offered.blob ≠ record.key →
        reply.status = 200 ∧ reply.body = "\x7b\"success\":false\x7d") ∧
      (r.posts "/pubkey" → (∀ record offered, ¬ s.Decides r record offered) →
        reply.status = 500) := by
  have hreply := s.getElem?_run s.initial rs i
  rw [hr] at hreply
  refine ⟨_, hreply, ?_, ?_, ?_⟩
  · show Reply.TellsVerdict _ true ↔ _
    rw [tellsVerdict_iff]
    constructor
    · rintro ⟨record, offered, hdecides, hsame⟩
      exact ⟨record, offered, hdecides, of_decide_eq_true hsame.symm⟩
    · rintro ⟨record, offered, hdecides, hsame⟩
      exact ⟨record, offered, hdecides, (decide_eq_true hsame).symm⟩
  · intro record offered hdecides hdifferent
    show Reply.TellsVerdict _ false
    exact tellsVerdict_iff.2 ⟨record, offered, hdecides, (decide_eq_false hdifferent).symm⟩
  · intro hposts hnone
    exact reply_of_not_decides hposts hnone

/-- Alice is let in after a request that has nothing to do with her. -/
theorem run_accepts_registered_alice :
    let key : List UInt8 := [0, 0, 0, 7, 0x73, 0x73, 0x68, 0x2d, 0x72, 0x73, 0x61, 0, 0, 0, 3, 1,
      0, 1, 0, 0, 0, 3, 0, 255, 1]
    let s : Service := ⟨.empty, ⟨"listed", fun owner => .ok ⟨owner, key⟩, .ok ()⟩⟩
    let body := "\x7b\"username\":\"alice#gpu-box-1\","
      ++ "\"publicKey\":\"ssh-rsa AAAADHJzYS1zaGEyLTUxMgAAAAMBAAEAAAADAP8B laptop\"\x7d"
    let r : Request := ⟨"POST", "/pubkey?n=1", ⟨some "application/json", Text.bytes body⟩⟩
    let rs := [(⟨"GET", "/healthz", ⟨none, []⟩⟩, 0.0), (r, 0.5)]
    rs[1]? = some (r, 0.5) ∧ ∃ reply, (s.run s.initial rs).1[1]? = some reply ∧
      reply.status = 200 ∧ reply.body = "\x7b\"success\":true\x7d" := by
  intro key s body r rs
  have hr : rs[1]? = some (r, 0.5) := rfl
  have hbody : KeyRequest.ofBody r.body = .ok ⟨"alice#gpu-box-1", "", "",
      "ssh-rsa AAAADHJzYS1zaGEyLTUxMgAAAAMBAAEAAAADAP8B laptop"⟩ :=
    ok_of_toOption (by decide +kernel)
  have hline : AuthorizedKey.parse "ssh-rsa AAAADHJzYS1zaGEyLTUxMgAAAAMBAAEAAAADAP8B laptop" =
      .ok ⟨"ssh-rsa", key, some "laptop"⟩ :=
    ok_of_toOption (by decide +kernel)
  have hdecides : s.Decides r ⟨"alice", key⟩ ⟨"ssh-rsa", key, some "laptop"⟩ :=
    ⟨by decide, _, ⟨"alice", "gpu-box-1"⟩, hbody, rfl, rfl, hline⟩
  obtain ⟨reply, hreply, haccepts, -, -⟩ := run_accepts_registered s rs hr
  exact ⟨hr, reply, hreply, haccepts.2 ⟨_, _, hdecides, rfl⟩⟩

end Gatehouse.Http.Service
