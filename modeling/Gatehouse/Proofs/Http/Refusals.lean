import Gatehouse.Proofs.Http.Bodies
import Gatehouse.Proofs.Verdict.Precedence

/-! # What a refusal says

    A refusal is an object of two strings, the kind and the message.  Replies to route requests
    say nothing but that a username is malformed (`isRefusal_routeReply_iff`); replies to key
    checks have the cause for which no verdict was reached (`isRefusal_keyReply_iff`).

    The two webhooks come to a malformed username by different ways.  To the gateway this makes
    no difference: they refuse the same usernames, and with one text
    (`webhooks_refuse_alike`). -/

namespace Gatehouse.Http

/-! ## Refusals among replies -/

/-- The reply is a refusal: its body is an object of two strings, the kind and the message. -/
def Reply.IsRefusal (reply : Reply) (kind message : String) : Prop :=
  reply.status = 500 ∧ Json.parse? (Text.bytes reply.body) =
    some (.object [("error", .string kind), ("message", .string message)])

/-- A refusal has one kind and one message. -/
theorem Reply.IsRefusal.unique {reply : Reply} {kind kind' message message' : String}
    (h : reply.IsRefusal kind message) (h' : reply.IsRefusal kind' message') :
    kind = kind' ∧ message = message' := by
  have hread := h.2.symm.trans h'.2
  simp only [Option.some.injEq, Json.object.injEq, List.cons.injEq, Prod.mk.injEq,
    Json.string.injEq] at hread
  exact ⟨hread.1.2, hread.2.1.2⟩

theorem isRefusal_refusal (r : Refusal) : (Answer.refusal r).reply.IsRefusal r.kind r.message :=
  ⟨rfl, parse?_refusal r⟩

theorem isRefusal_refusal_iff {r : Refusal} {kind message : String} :
    (Answer.refusal r).reply.IsRefusal kind message ↔ r.kind = kind ∧ r.message = message := by
  constructor
  · intro h
    exact (isRefusal_refusal r).unique h
  · rintro ⟨rfl, rfl⟩
    exact isRefusal_refusal r

/-- What is answered well is no refusal. -/
theorem not_isRefusal_of_status {reply : Reply} (h : reply.status = 200) {kind message : String} :
    ¬ reply.IsRefusal kind message := by
  intro hrefusal
  have hstatus := hrefusal.1
  omega

/-- The username is refused as malformed. -/
def Reply.RejectsUsername (reply : Reply) : Prop :=
  ∃ message, reply.IsRefusal "malformed_identity" message

namespace Service

/-! ## Refusals of the webhooks -/

section refusals
variable {s : Service} {username publicKey kind message : String}

/-- A route request that is taken is refused for its username only. -/
theorem isRefusal_routeReply_iff :
    (s.routeReply username).IsRefusal kind message ↔
      ∃ e, Identity.decode username = .error e ∧ (Refusal.malformedIdentity e).kind = kind ∧
        (Refusal.malformedIdentity e).message = message := by
  constructor
  · intro h
    cases hdecode : Identity.decode username with
    | error e =>
      rw [routeReply_of_error hdecode] at h
      exact ⟨e, rfl, isRefusal_refusal_iff.1 h⟩
    | ok identity =>
      rw [routeReply_of_ok hdecode] at h
      exact absurd h (not_isRefusal_of_status rfl)
  · rintro ⟨e, hdecode, hsays⟩
    rw [routeReply_of_error hdecode]
    exact isRefusal_refusal_iff.2 hsays

/-- A key check that is taken is refused for the cause for which there is no verdict. -/
theorem isRefusal_keyReply_iff :
    (s.keyReply username publicKey).IsRefusal kind message ↔
      ∃ cause, verify s.store username publicKey = .error cause ∧
        (Refusal.undecided cause).kind = kind ∧ (Refusal.undecided cause).message = message := by
  constructor
  · intro h
    cases hverify : verify s.store username publicKey with
    | error cause =>
      rw [keyReply_of_error hverify] at h
      exact ⟨cause, rfl, isRefusal_refusal_iff.1 h⟩
    | ok success =>
      rw [keyReply_of_ok hverify] at h
      exact absurd h (not_isRefusal_of_status rfl)
  · rintro ⟨cause, hverify, hsays⟩
    rw [keyReply_of_error hverify]
    exact isRefusal_refusal_iff.2 hsays

/-- A malformed username has the same refusal from both webhooks, whatever the services. -/
theorem keyReply_eq_routeReply {s' : Service} {e : MalformedIdentity}
    (h : Identity.decode username = .error e) :
    s'.keyReply username publicKey = s.routeReply username := by
  rw [keyReply_of_error (verify_of_malformed publicKey h), routeReply_of_error h]
  -- The key check hands the error on as a cause of its own, with the same kind and message.
  rfl

theorem rejectsUsername_routeReply_iff :
    (s.routeReply username).RejectsUsername ↔ ∃ e, Identity.decode username = .error e := by
  constructor
  · rintro ⟨message, hrefusal⟩
    obtain ⟨e, hdecode, -⟩ := isRefusal_routeReply_iff.1 hrefusal
    exact ⟨e, hdecode⟩
  · rintro ⟨e, hdecode⟩
    exact ⟨e.message, isRefusal_routeReply_iff.2 ⟨e, hdecode, rfl, rfl⟩⟩

/-- No state of the store and no line make a username malformed, or hide that it is. -/
theorem rejectsUsername_keyReply_iff :
    (s.keyReply username publicKey).RejectsUsername ↔
      ∃ e, Identity.decode username = .error e := by
  constructor
  · rintro ⟨message, hrefusal⟩
    obtain ⟨cause, hverify, hkind, -⟩ := isRefusal_keyReply_iff.1 hrefusal
    obtain ⟨e, rfl⟩ := Undecided.kind_eq_malformed_iff.1 hkind
    exact ⟨e, verify_eq_malformed_iff.1 hverify⟩
  · rintro ⟨e, hdecode⟩
    have hverify : verify s.store username publicKey = _ := verify_of_malformed publicKey hdecode
    exact ⟨e.message, isRefusal_keyReply_iff.2 ⟨_, hverify, rfl, rfl⟩⟩

end refusals

/-! ## Malformed usernames -/

/-- A route request and a key check, of two services, carry the same username.
    * One is refused for a malformed username exactly if the other is, and exactly if the
      username cannot be taken apart; the message then is that of the username.
    * Then the replies are the same, body and all.
    * If not, the route request is answered well, and what the key check is told is never that
      the username is malformed.
    Neither the stores nor the offered key nor the other fields have a part in it. -/
theorem webhooks_refuse_alike (s s' : Service) (m m' : Metrics) {r r' : Request}
    (seconds seconds' : Float) {q : RouteRequest} {q' : KeyRequest} (hposts : r.posts "/config")
    (hposts' : r'.posts "/pubkey") (hbody : RouteRequest.ofBody r.body = .ok q)
    (hbody' : KeyRequest.ofBody r'.body = .ok q') (husername : q.username = q'.username) :
    let routed := (s.reply m r seconds).1
    let checked := (s'.reply m' r' seconds').1
    (routed.RejectsUsername ↔ checked.RejectsUsername) ∧
      (routed.RejectsUsername ↔ ∃ e, Identity.decode q.username = .error e) ∧
      (∀ e, Identity.decode q.username = .error e →
        routed.IsRefusal "malformed_identity" e.message ∧
          checked.IsRefusal "malformed_identity" e.message) ∧
      (routed.RejectsUsername → routed = checked) ∧
      (¬ routed.RejectsUsername → routed.status = 200 ∧ ¬ checked.RejectsUsername) := by
  intro routed checked
  have hrouted : routed = s.routeReply q.username := reply_eq_routeReply s m seconds hposts hbody
  have hchecked : checked = s'.keyReply q.username q'.publicKey := by
    rw [husername]
    exact reply_eq_keyReply s' m' seconds' hposts' hbody'
  rw [hrouted, hchecked, rejectsUsername_routeReply_iff, rejectsUsername_keyReply_iff]
  refine ⟨Iff.rfl, Iff.rfl, ?_, ?_, ?_⟩
  · intro e hdecode
    have hroute : (s.routeReply q.username).IsRefusal "malformed_identity" e.message :=
      isRefusal_routeReply_iff.2 ⟨e, hdecode, rfl, rfl⟩
    refine ⟨hroute, ?_⟩
    rw [keyReply_eq_routeReply hdecode]
    exact hroute
  · rintro ⟨e, hdecode⟩
    exact (keyReply_eq_routeReply hdecode).symm
  · intro hnone
    refine ⟨?_, hnone⟩
    cases hdecode : Identity.decode q.username with
    | error e => exact absurd ⟨e, hdecode⟩ hnone
    | ok identity =>
      rw [routeReply_of_ok hdecode]
      rfl

/-- A username with a second delimiter.  It is refused alike by a service with no records and by
    one whose store cannot even be reached; there the offered key is no key either.  The same
    broken service routes a username that is in order. -/
theorem webhooks_refuse_alike_delimiters :
    let s : Service := ⟨.ofList ["SHA256:a"],
      ⟨"static", fun owner => .error (.notFound owner), .ok ()⟩⟩
    let down : Service := ⟨.empty,
      ⟨"postgres", fun _ => .error (.unavailable "no route to host"), .error "no route to host"⟩⟩
    let route (username : String) : Request :=
      ⟨"POST", "/config", ⟨some "application/json", Text.bytes
        ("\x7b\"clientVersion\":\"SSH-2.0\",\"username\":\"" ++ username ++ "\"\x7d")⟩⟩
    let check (username : String) : Request :=
      ⟨"POST", "/pubkey?n=1", ⟨some "application/json", Text.bytes
        ("[\"" ++ username ++ "\",\"10.0.0.1\",\"\",\"no key\"]")⟩⟩
    let reply := (s.reply s.initial (route "alice#a#b") 0.0).1
    reply.IsRefusal "malformed_identity"
        "malformed identity \"alice#a#b\": more than one delimiter" ∧
      reply = (down.reply down.initial (check "alice#a#b") 0.5).1 ∧
      (down.reply down.initial (route "alice#a") 0.0).1.status = 200 ∧
      ¬ (down.reply down.initial (check "alice#a") 0.5).1.RejectsUsername := by
  intro s down route check reply
  have hroute : RouteRequest.ofBody (route "alice#a#b").body =
      .ok ⟨"alice#a#b", "", "", "SSH-2.0"⟩ := ok_of_toOption (by decide +kernel)
  have hcheck : KeyRequest.ofBody (check "alice#a#b").body =
      .ok ⟨"alice#a#b", "10.0.0.1", "", "no key"⟩ := ok_of_toOption (by decide +kernel)
  have hroutable : RouteRequest.ofBody (route "alice#a").body =
      .ok ⟨"alice#a", "", "", "SSH-2.0"⟩ := ok_of_toOption (by decide +kernel)
  have hcheckable : KeyRequest.ofBody (check "alice#a").body =
      .ok ⟨"alice#a", "10.0.0.1", "", "no key"⟩ := ok_of_toOption (by decide +kernel)
  have hconfig (username : String) : (route username).posts "/config" := by
    refine ⟨rfl, ?_⟩
    show String.ofList ("/config".toList.takeWhile (· ≠ '?')) = "/config"
    decide
  have hpubkey (username : String) : (check username).posts "/pubkey" := by
    refine ⟨rfl, ?_⟩
    show String.ofList ("/pubkey?n=1".toList.takeWhile (· ≠ '?')) = "/pubkey"
    decide
  have hbad : Identity.decode "alice#a#b" = .error ⟨"alice#a#b", .extraDelimiter⟩ := by rfl
  have hgood : Identity.decode "alice#a" = .ok ⟨"alice", "a"⟩ :=
    ok_of_toOption (by decide +kernel)
  obtain ⟨-, hrejects, hrefused, hsame, -⟩ := webhooks_refuse_alike s down s.initial down.initial
    0.0 0.5 (hconfig "alice#a#b") (hpubkey "alice#a#b") hroute hcheck rfl
  obtain ⟨-, hrejects', -, -, hwell⟩ := webhooks_refuse_alike down down down.initial down.initial
    0.0 0.5 (hconfig "alice#a") (hpubkey "alice#a") hroutable hcheckable rfl
  have hnone : ¬ (down.reply down.initial (route "alice#a") 0.0).1.RejectsUsername := by
    rw [hrejects', hgood]
    simp
  exact ⟨(hrefused _ hbad).1, hsame (hrejects.2 ⟨_, hbad⟩), hwell hnone⟩

end Service

end Gatehouse.Http
