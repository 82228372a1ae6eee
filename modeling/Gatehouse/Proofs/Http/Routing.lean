import Gatehouse.Proofs.Http.Reply
import Gatehouse.Proofs.Result
import Gatehouse.Proofs.Route

/-! # Where the gateway is sent

    A route request has one good reply: a document that names the target of the username, the
    fixed port and username, and the trusted fingerprints (`routeDocument`).  The reply is
    text, and whatever characters the target holds, the text reads back as this document
    (`parse?_routeDocument`).  So nobody can slip a second member, another host or another
    host key into it (`reply_routes_to_target`). -/

namespace Gatehouse.Http

/-! ## The document -/

/-- What the gateway is to read in the reply to a route request. -/
def routeDocument (target : String) (fingerprints : List String) : Json :=
  .object [("config", .object [
    ("backend", .string "sshproxy"),
    ("sshproxy", .object [
      ("server", .string target),
      ("port", .integer 2222),
      ("username", .string "envd"),
      ("allowedHostKeyFingerprints", .array (fingerprints.map .string))])])]

theorem elementsExact_strings (texts : List String) :
    Json.ElementsExact (texts.map Json.string) := by
  induction texts with
  | nil => exact trivial
  | cons t texts ih => exact ⟨trivial, ih⟩

theorem isExact_routeDocument (target : String) (fingerprints : List String) :
    Json.IsExact (routeDocument target fingerprints) := by
  have hport : Json.IsExact (.integer 2222) := by
    constructor <;> decide
  have hkeys : Json.IsExact (.array (fingerprints.map .string)) := elementsExact_strings _
  exact ⟨⟨trivial, ⟨trivial, hport, trivial, hkeys, trivial⟩, trivial⟩, trivial⟩

/-- The document is read back from its text. -/
theorem parse?_routeDocument (target : String) (fingerprints : List String) :
    Json.parse? (Text.bytes (routeDocument target fingerprints).render) =
      some (routeDocument target fingerprints) :=
  Json.parse?_render (isExact_routeDocument target fingerprints)

theorem routeDocument_inj {target target' : String} {fingerprints : List String}
    (h : routeDocument target fingerprints = routeDocument target' fingerprints) :
    target = target' := by
  simp only [routeDocument, Json.object.injEq, List.cons.injEq, Prod.mk.injEq, Json.string.injEq]
    at h
  exact h.1.2.2.1.2.1.2

/-! ## Replies to route requests -/

namespace Service

section reply
variable {s : Service} {m : Metrics} {r : Request} {seconds : Float} {q : RouteRequest}

/-- A route request is sent where its username says. -/
theorem reply_of_decode {identity : Identity} (hposts : r.posts "/config")
    (hbody : RouteRequest.ofBody r.body = .ok q)
    (hdecode : Identity.decode q.username = .ok identity) :
    (s.reply m r seconds).1 =
      .json 200 (routeDocument identity.target s.fingerprints.toList) := by
  have hroute : Route.resolve s.fingerprints q.username = _ :=
    Route.resolve_eq_ok_iff.2 ⟨_, hdecode, rfl⟩
  rw [reply_of_posts s m seconds hposts, answer_config s m seconds hposts,
    config_of_route s m hbody hroute]
  rfl

/-- A route request whose username says nothing is refused. -/
theorem reply_of_decode_error {e : MalformedIdentity} (hposts : r.posts "/config")
    (hbody : RouteRequest.ofBody r.body = .ok q) (hdecode : Identity.decode q.username = .error e) :
    (s.reply m r seconds).1 = (Answer.refusal (.malformedIdentity e)).reply := by
  have hroute : Route.resolve s.fingerprints q.username = .error e := by
    unfold Route.resolve
    rw [hdecode]
    rfl
  rw [reply_of_posts s m seconds hposts, answer_config s m seconds hposts,
    config_of_malformed s m hbody hroute]

/-- A body that is not taken is never answered with a route, and nothing is counted. -/
theorem reply_of_body_error {fault : BodyFault} (hposts : r.posts "/config")
    (hbody : RouteRequest.ofBody r.body = .error fault) :
    s.reply m r seconds = ((Answer.refusal (.badRequest fault)).reply, m) := by
  rw [reply_of_posts s m seconds hposts, answer_config s m seconds hposts,
    config_of_badRequest s m hbody]

variable (s m seconds) in
/-- The good replies to route requests are routes to the targets of their usernames. -/
theorem status_eq_iff (hposts : r.posts "/config") :
    (s.reply m r seconds).1.status = 200 ↔
      ∃ q identity, RouteRequest.ofBody r.body = .ok q ∧
        Identity.decode q.username = .ok identity ∧
        (s.reply m r seconds).1 =
          .json 200 (routeDocument identity.target s.fingerprints.toList) := by
  constructor
  · intro hstatus
    cases hbody : RouteRequest.ofBody r.body with
    | error fault =>
      rw [reply_of_body_error hposts hbody] at hstatus
      cases hstatus
    | ok q =>
      cases hdecode : Identity.decode q.username with
      | error e =>
        rw [reply_of_decode_error hposts hbody hdecode] at hstatus
        cases hstatus
      | ok identity =>
        exact ⟨q, identity, rfl, hdecode, reply_of_decode hposts hbody hdecode⟩
  · rintro ⟨q, identity, -, -, hreply⟩
    rw [hreply]
    rfl

end reply

/-- A service starts with a list of fingerprints.  A route request, whatever its username is made
    of and whatever was asked before, is answered well exactly if the username can be taken
    apart.  The body is then read back as the one document that sends the gateway to the target,
    verbatim, with the list without its repetitions; and it has no further member.  Good replies
    to two route requests have the same body exactly if their targets are the same, whoever
    the owners are. -/
theorem reply_routes_to_target (fingerprints : List String) (store : Store) (m : Metrics)
    {r : Request} (seconds : Float) {q : RouteRequest} (hposts : r.posts "/config")
    (hbody : RouteRequest.ofBody r.body = .ok q) :
    let s : Service := ⟨.ofList fingerprints, store⟩
    let reply := (s.reply m r seconds).1
    (reply.status = 200 ↔ ∃ identity, Identity.decode q.username = .ok identity) ∧
      (∀ identity, Identity.decode q.username = .ok identity →
        Json.parse? (Text.bytes reply.body) =
          some (routeDocument identity.target fingerprints.eraseDups)) ∧
      ∀ (m' : Metrics) (r' : Request) (seconds' : Float) (q' : RouteRequest)
        (identity identity' : Identity), r'.posts "/config" →
        RouteRequest.ofBody r'.body = .ok q' → Identity.decode q.username = .ok identity →
        Identity.decode q'.username = .ok identity' →
        (reply.body = (s.reply m' r' seconds').1.body ↔ identity.target = identity'.target) := by
  intro s reply
  have hlist : s.fingerprints.toList = fingerprints.eraseDups :=
    FingerprintSet.toList_ofList fingerprints
  refine ⟨?_, ?_, ?_⟩
  · rw [status_eq_iff s m seconds hposts]
    constructor
    · rintro ⟨q', identity, hbody', hdecode, -⟩
      obtain rfl := Except.ok.inj (hbody.symm.trans hbody')
      exact ⟨identity, hdecode⟩
    · rintro ⟨identity, hdecode⟩
      exact ⟨q, identity, hbody, hdecode, reply_of_decode hposts hbody hdecode⟩
  · intro identity hdecode
    have hreply : reply = _ := reply_of_decode hposts hbody hdecode
    rw [hreply, ← hlist]
    exact parse?_routeDocument _ _
  · intro m' r' seconds' q' identity identity' hposts' hbody' hdecode hdecode'
    have hreply : reply = _ := reply_of_decode hposts hbody hdecode
    rw [hreply, reply_of_decode hposts' hbody' hdecode']
    constructor
    · intro hsame
      -- One text is read as one document only.
      have hread := parse?_routeDocument identity.target s.fingerprints.toList
      rw [show (routeDocument identity.target _).render = _ from hsame] at hread
      exact (routeDocument_inj (Option.some.inj ((parse?_routeDocument _ _).symm.trans hread))).symm
    · intro hsame
      rw [hsame]

/-- A target that tries to close its string and to name another server is dialled as it is, and
    for Bob as for Alice. -/
theorem reply_routes_to_target_quotes :
    let target := "box\",\"server\":\"evil"
    let s : Service := ⟨.ofList ["SHA256:a", "SHA256:b", "SHA256:a"],
      ⟨"listed", fun owner => .error (.notFound owner), .ok ()⟩⟩
    let r (owner : String) : Request := ⟨"POST", "/config", ⟨some "application/json", Text.bytes
      ("\x7b\"username\":\"" ++ owner ++ "#box\\\",\\\"server\\\":\\\"evil\"\x7d")⟩⟩
    let reply := (s.reply s.initial (r "alice") 0.0).1
    (r "alice").posts "/config" ∧ (∃ q, RouteRequest.ofBody (r "alice").body = .ok q) ∧
      (r "bob").posts "/config" ∧ (∃ q, RouteRequest.ofBody (r "bob").body = .ok q) ∧
      reply.status = 200 ∧
      Json.parse? (Text.bytes reply.body) =
        some (routeDocument target ["SHA256:a", "SHA256:b"]) ∧
      reply.body = (s.reply s.initial (r "bob") 0.0).1.body := by
  intro target s r reply
  have hposts (owner : String) : (r owner).posts "/config" := by
    refine ⟨rfl, ?_⟩
    show String.ofList ("/config".toList.takeWhile (· ≠ '?')) = "/config"
    decide
  have halice : RouteRequest.ofBody (r "alice").body = .ok ⟨"alice#" ++ target, "", "", ""⟩ :=
    ok_of_toOption (by decide +kernel)
  have hbob : RouteRequest.ofBody (r "bob").body = .ok ⟨"bob#" ++ target, "", "", ""⟩ :=
    ok_of_toOption (by decide +kernel)
  have hdecode : Identity.decode ("alice#" ++ target) = .ok ⟨"alice", target⟩ :=
    ok_of_toOption (by decide +kernel)
  have hdecode' : Identity.decode ("bob#" ++ target) = .ok ⟨"bob", target⟩ :=
    ok_of_toOption (by decide +kernel)
  obtain ⟨hstatus, hread, hsame⟩ := reply_routes_to_target ["SHA256:a", "SHA256:b", "SHA256:a"]
    s.store s.initial 0.0 (hposts "alice") halice
  refine ⟨hposts _, ⟨_, halice⟩, hposts _, ⟨_, hbob⟩, hstatus.2 ⟨_, hdecode⟩, hread _ hdecode, ?_⟩
  exact (hsame s.initial _ 0.0 _ _ _ (hposts "bob") hbob hdecode hdecode').2 rfl

end Service

end Gatehouse.Http
