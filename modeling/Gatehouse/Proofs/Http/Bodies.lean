import Gatehouse.Proofs.Http.Routing
import Gatehouse.Proofs.Json.Records

/-! # What a body asks

    A body that holds one JSON value asks what this value says about the fields of a request, and
    nothing else about it counts: not the order of its members, nor blanks, nor how a string is
    spelled, nor members that nobody knows (`RouteRequest.ofBody_eq_ok_iff`,
    `KeyRequest.ofBody_eq_ok_iff`).  If it says nothing, or too much, the request is refused
    and not counted.  A request that is taken is answered by its username, and by the key if
    one is offered (`reply_of_documents`). -/

namespace Gatehouse.Http

open Json (Document Field Gap Label Numeral Piece Record Spelled)

/-- A document that is sent as a body. -/
def Body.ofDocument (d : Document) : Body := ⟨some "application/json", d.bytes⟩

/-! ## Reading -/

section read
variable {record : Record} {d : Document}

/-- What is read of a document that is not too long is what its value says. -/
theorem toOption_read_ofDocument (hlength : d.bytes.length ≤ maxBody) :
    ((Body.ofDocument d).read record).toOption = record.texts? d.value := by
  have hjson : announcesJson (some "application/json") = true := by decide
  have hread := record.toOption_read d
  unfold Body.read Body.ofDocument
  simp only [hjson, Bool.not_true, Bool.false_eq_true, if_false, if_neg (Nat.not_lt.2 hlength)]
  rw [← hread]
  cases record.read d.bytes <;> rfl

variable {α : Type} {ofTexts : List String → α}

/-- So a request made of these texts is the one that is taken. -/
theorem map_read_eq_ok_iff (hlength : d.bytes.length ≤ maxBody) {q : α} :
    ((Body.ofDocument d).read record).map ofTexts = .ok q ↔
      ∃ texts, record.texts? d.value = some texts ∧ ofTexts texts = q := by
  have hread : ((Body.ofDocument d).read record).toOption = _ := toOption_read_ofDocument hlength
  constructor
  · intro h
    obtain ⟨texts, htexts, hq⟩ := ok_of_map h
    rw [htexts] at hread
    exact ⟨texts, hread.symm, hq⟩
  · rintro ⟨texts, htexts, rfl⟩
    rw [ok_of_toOption (hread.trans htexts)]
    rfl

/-- A document whose value gives no texts is never taken, be it too long or not. -/
theorem map_read_error (h : record.texts? d.value = none) :
    ∃ fault, ((Body.ofDocument d).read record).map ofTexts = .error fault := by
  cases hq : ((Body.ofDocument d).read record).map ofTexts with
  | error fault => exact ⟨fault, rfl⟩
  | ok q =>
    by_cases hlength : d.bytes.length ≤ maxBody
    · obtain ⟨texts, htexts, -⟩ := (map_read_eq_ok_iff hlength).1 hq
      rw [h] at htexts
      cases htexts
    · have hjson : announcesJson (some "application/json") = true := by decide
      unfold Body.read Body.ofDocument at hq
      simp only [hjson, Bool.not_true, Bool.false_eq_true, if_false,
        if_pos (Nat.lt_of_not_le hlength)] at hq
      cases hq

end read

/-! ## The two records -/

-- They differ in their last field only.
section fields
variable {record : Record} {last : Field} {v : Spelled}

theorem texts?_eq_some_iff_of_fields
    (hfields : record.fields =
      [⟨"username", true⟩, ⟨"remoteAddress", false⟩, ⟨"connectionId", false⟩, last])
    {texts : List String} :
    record.texts? v = some texts ↔
      ∃ username address connection text, texts = [username, address, connection, text] ∧
        v.IsRecord 4 ∧ v.Says 0 "username" username ∧ v.MaySay 1 "remoteAddress" address ∧
        v.MaySay 2 "connectionId" connection ∧
        last.text? (v.valuesAt 3 last.name) = some text := by
  rw [Record.texts?_eq_some_iff, hfields]
  constructor
  · rintro ⟨hrecord, h⟩
    simp only [Field.texts?_cons_eq_some_iff] at h
    obtain ⟨username, _, husername, ⟨address, _, haddress, ⟨connection, _, hconnection,
      ⟨text, _, htext, hend, rfl⟩, rfl⟩, rfl⟩, rfl⟩ := h
    obtain rfl := Option.some.inj hend
    exact ⟨username, address, connection, text, rfl, hrecord, Field.text?_required_iff.1 husername,
      Field.text?_optional_iff.1 haddress, Field.text?_optional_iff.1 hconnection, htext⟩
  · rintro ⟨username, address, connection, text, rfl, hrecord, husername, haddress, hconnection,
      htext⟩
    refine ⟨hrecord, ?_⟩
    simp only [Field.texts?_cons_eq_some_iff]
    exact ⟨username, _, Field.text?_required_iff.2 husername, ⟨address, _,
      Field.text?_optional_iff.2 haddress, ⟨connection, _, Field.text?_optional_iff.2 hconnection,
        ⟨text, [], htext, rfl, rfl⟩, rfl⟩, rfl⟩, rfl⟩

end fields

namespace RouteRequest

variable {d : Document}

/-- A document asks for the route of the request whose strings it says. -/
theorem ofBody_eq_ok_iff (hlength : d.bytes.length ≤ maxBody) {q : RouteRequest} :
    ofBody (.ofDocument d) = .ok q ↔
      d.value.IsRecord 4 ∧ d.value.Says 0 "username" q.username ∧
        d.value.MaySay 1 "remoteAddress" q.remoteAddress ∧
        d.value.MaySay 2 "connectionId" q.connectionId ∧
        d.value.MaySay 3 "clientVersion" q.clientVersion := by
  unfold ofBody
  rw [map_read_eq_ok_iff hlength]
  constructor
  · rintro ⟨texts, htexts, rfl⟩
    obtain ⟨username, address, connection, version, rfl, hrecord, husername, haddress, hconnection,
      hversion⟩ := (texts?_eq_some_iff_of_fields rfl).1 htexts
    exact ⟨hrecord, husername, haddress, hconnection, Field.text?_optional_iff.1 hversion⟩
  · rintro ⟨hrecord, husername, haddress, hconnection, hversion⟩
    have htexts : record.texts? d.value = _ := (texts?_eq_some_iff_of_fields rfl).2
      ⟨_, _, _, _, rfl, hrecord, husername, haddress, hconnection,
        Field.text?_optional_iff.2 hversion⟩
    exact ⟨_, htexts, rfl⟩

/-- A document is not taken if it garbles a field or does not say who is asking. -/
theorem ofBody_error (h : d.value.Omits 0 "username" ∨ d.value.Garbles 0 "username" ∨
      d.value.Garbles 1 "remoteAddress" ∨ d.value.Garbles 2 "connectionId" ∨
      d.value.Garbles 3 "clientVersion") :
    ∃ fault, ofBody (.ofDocument d) = .error fault := by
  have hnone : record.texts? d.value = none := by
    rcases h with h | h | h | h | h
    · exact Record.texts?_eq_none_of_omits (i := 0) rfl rfl h
    · exact Record.texts?_eq_none_of_garbles (i := 0) rfl h
    · exact Record.texts?_eq_none_of_garbles (i := 1) rfl h
    · exact Record.texts?_eq_none_of_garbles (i := 2) rfl h
    · exact Record.texts?_eq_none_of_garbles (i := 3) rfl h
  exact map_read_error hnone

end RouteRequest

namespace KeyRequest

variable {d : Document}

/-- A document asks about the key of the request whose strings it says. -/
theorem ofBody_eq_ok_iff (hlength : d.bytes.length ≤ maxBody) {q : KeyRequest} :
    ofBody (.ofDocument d) = .ok q ↔
      d.value.IsRecord 4 ∧ d.value.Says 0 "username" q.username ∧
        d.value.MaySay 1 "remoteAddress" q.remoteAddress ∧
        d.value.MaySay 2 "connectionId" q.connectionId ∧
        d.value.Says 3 "publicKey" q.publicKey := by
  unfold ofBody
  rw [map_read_eq_ok_iff hlength]
  constructor
  · rintro ⟨texts, htexts, rfl⟩
    obtain ⟨username, address, connection, key, rfl, hrecord, husername, haddress, hconnection,
      hkey⟩ := (texts?_eq_some_iff_of_fields rfl).1 htexts
    exact ⟨hrecord, husername, haddress, hconnection, Field.text?_required_iff.1 hkey⟩
  · rintro ⟨hrecord, husername, haddress, hconnection, hkey⟩
    have htexts : record.texts? d.value = _ := (texts?_eq_some_iff_of_fields rfl).2
      ⟨_, _, _, _, rfl, hrecord, husername, haddress, hconnection,
        Field.text?_required_iff.2 hkey⟩
    exact ⟨_, htexts, rfl⟩

/-- A document is not taken if it garbles a field or does not say who is asking with what key. -/
theorem ofBody_error (h : d.value.Omits 0 "username" ∨ d.value.Omits 3 "publicKey" ∨
      d.value.Garbles 0 "username" ∨ d.value.Garbles 1 "remoteAddress" ∨
      d.value.Garbles 2 "connectionId" ∨ d.value.Garbles 3 "publicKey") :
    ∃ fault, ofBody (.ofDocument d) = .error fault := by
  have hnone : record.texts? d.value = none := by
    rcases h with h | h | h | h | h | h
    · exact Record.texts?_eq_none_of_omits (i := 0) rfl rfl h
    · exact Record.texts?_eq_none_of_omits (i := 3) rfl rfl h
    · exact Record.texts?_eq_none_of_garbles (i := 0) rfl h
    · exact Record.texts?_eq_none_of_garbles (i := 1) rfl h
    · exact Record.texts?_eq_none_of_garbles (i := 2) rfl h
    · exact Record.texts?_eq_none_of_garbles (i := 3) rfl h
  exact map_read_error hnone

end KeyRequest

/-! ## Answers -/

namespace Service

section refused
variable (s : Service) (m : Metrics) {r : Request} (seconds : Float) {fault : BodyFault}

/-- A refusal of a body tells so, and nothing is counted. -/
theorem reply_config_of_error (hposts : r.posts "/config")
    (hbody : RouteRequest.ofBody r.body = .error fault) :
    (s.reply m r seconds).1.status = 500 ∧ (s.reply m r seconds).1.error? = some "bad_request" ∧
      (s.reply m r seconds).2 = m := by
  rw [reply_of_body_error hposts hbody]
  exact ⟨rfl, error?_refusal _, rfl⟩

theorem reply_of_key_body_error (hposts : r.posts "/pubkey")
    (hbody : KeyRequest.ofBody r.body = .error fault) :
    s.reply m r seconds = ((Answer.refusal (.badRequest fault)).reply, m) := by
  rw [reply_of_posts s m seconds hposts, answer_pubkey s m seconds hposts,
    pubkey_of_badRequest s m seconds hbody]

theorem reply_pubkey_of_error (hposts : r.posts "/pubkey")
    (hbody : KeyRequest.ofBody r.body = .error fault) :
    (s.reply m r seconds).1.status = 500 ∧ (s.reply m r seconds).1.error? = some "bad_request" ∧
      (s.reply m r seconds).2 = m := by
  rw [s.reply_of_key_body_error m seconds hposts hbody]
  exact ⟨rfl, error?_refusal _, rfl⟩

end refused

/-- What is answered about a key that a user offers. -/
def keyReply (s : Service) (username publicKey : String) : Reply :=
  match verify s.store username publicKey with
  | .error cause => (Answer.refusal (.undecided cause)).reply
  | .ok success  => (Answer.verdict success).reply

section
variable {s : Service} {username publicKey : String}

theorem keyReply_of_error {cause : Undecided}
    (h : verify s.store username publicKey = .error cause) :
    s.keyReply username publicKey = (Answer.refusal (.undecided cause)).reply := by
  unfold keyReply
  rw [h]

theorem keyReply_of_ok {success : Bool} (h : verify s.store username publicKey = .ok success) :
    s.keyReply username publicKey = (Answer.verdict success).reply := by
  unfold keyReply
  rw [h]

end

theorem reply_eq_keyReply (s : Service) (m : Metrics) {r : Request} (seconds : Float)
    {q : KeyRequest} (hposts : r.posts "/pubkey") (hbody : KeyRequest.ofBody r.body = .ok q) :
    (s.reply m r seconds).1 = s.keyReply q.username q.publicKey := by
  rw [reply_of_posts s m seconds hposts, answer_pubkey s m seconds hposts]
  cases hverify : verify s.store q.username q.publicKey with
  | error cause => rw [pubkey_of_undecided s m seconds hbody hverify, keyReply_of_error hverify]
  | ok success => rw [pubkey_of_verdict s m seconds hbody hverify, keyReply_of_ok hverify]

/-- Where a user is sent. -/
def routeReply (s : Service) (username : String) : Reply :=
  match Identity.decode username with
  | .error e     => (Answer.refusal (.malformedIdentity e)).reply
  | .ok identity => .json 200 (routeDocument identity.target s.fingerprints.toList)

section
variable {s : Service} {username : String}

theorem routeReply_of_error {e : MalformedIdentity} (h : Identity.decode username = .error e) :
    s.routeReply username = (Answer.refusal (.malformedIdentity e)).reply := by
  unfold routeReply
  rw [h]

theorem routeReply_of_ok {identity : Identity} (h : Identity.decode username = .ok identity) :
    s.routeReply username = .json 200 (routeDocument identity.target s.fingerprints.toList) := by
  unfold routeReply
  rw [h]

end

theorem reply_eq_routeReply (s : Service) (m : Metrics) {r : Request} (seconds : Float)
    {q : RouteRequest} (hposts : r.posts "/config") (hbody : RouteRequest.ofBody r.body = .ok q) :
    (s.reply m r seconds).1 = s.routeReply q.username := by
  cases hdecode : Identity.decode q.username with
  | error e => rw [reply_of_decode_error hposts hbody hdecode, routeReply_of_error hdecode]
  | ok identity => rw [reply_of_decode hposts hbody hdecode, routeReply_of_ok hdecode]

/-- A document is sent as a body: an object with its members in any order, an array in the order of
    the fields, or anything else, with any blanks, any spelling of its strings, and any members
    besides.
    * If it has at most 2097152 bytes, it is taken as a route request exactly if it gives the
      username and each other field once or not at all; then its strings are those of the
      request, and empty for what is not given.
    * If it has no more, it is taken as a key request exactly if it gives the key too.
    * If it gives a field twice, or gives something that is no string, or leaves out a field
      that has to be given, it is refused as a bad request and nothing is counted.
    Route requests that were taken are answered by their usernames alone, and key requests by
    their usernames and keys alone. -/
theorem reply_by_fields (s : Service) (d : Document) :
    let v := d.value
    (d.bytes.length ≤ 2097152 → ∀ q : RouteRequest, RouteRequest.ofBody (.ofDocument d) = .ok q ↔
      v.IsRecord 4 ∧ v.Says 0 "username" q.username ∧ v.MaySay 1 "remoteAddress" q.remoteAddress ∧
        v.MaySay 2 "connectionId" q.connectionId ∧ v.MaySay 3 "clientVersion" q.clientVersion) ∧
      (d.bytes.length ≤ 2097152 → ∀ q : KeyRequest, KeyRequest.ofBody (.ofDocument d) = .ok q ↔
        v.IsRecord 4 ∧ v.Says 0 "username" q.username ∧
          v.MaySay 1 "remoteAddress" q.remoteAddress ∧ v.MaySay 2 "connectionId" q.connectionId ∧
          v.Says 3 "publicKey" q.publicKey) ∧
      (∀ (m : Metrics) (r : Request) (seconds : Float), r.body = .ofDocument d →
        r.posts "/config" ∧ (v.Omits 0 "username" ∨ v.Garbles 0 "username" ∨
            v.Garbles 1 "remoteAddress" ∨ v.Garbles 2 "connectionId" ∨
            v.Garbles 3 "clientVersion") ∨
          r.posts "/pubkey" ∧ (v.Omits 0 "username" ∨ v.Omits 3 "publicKey" ∨
            v.Garbles 0 "username" ∨ v.Garbles 1 "remoteAddress" ∨ v.Garbles 2 "connectionId" ∨
            v.Garbles 3 "publicKey") →
        (s.reply m r seconds).1.status = 500 ∧
          (s.reply m r seconds).1.error? = some "bad_request" ∧ (s.reply m r seconds).2 = m) ∧
      (∃ answer : String → Reply, ∀ (m : Metrics) (r : Request) (seconds : Float)
        (q : RouteRequest), r.posts "/config" → RouteRequest.ofBody r.body = .ok q →
          (s.reply m r seconds).1 = answer q.username) ∧
      ∃ answer : String → String → Reply, ∀ (m : Metrics) (r : Request) (seconds : Float)
        (q : KeyRequest), r.posts "/pubkey" → KeyRequest.ofBody r.body = .ok q →
          (s.reply m r seconds).1 = answer q.username q.publicKey := by
  intro v
  refine ⟨fun hlength q => RouteRequest.ofBody_eq_ok_iff hlength,
    fun hlength q => KeyRequest.ofBody_eq_ok_iff hlength, ?_, ⟨s.routeReply, ?_⟩, ⟨s.keyReply, ?_⟩⟩
  · intro m r seconds hbody hspoilt
    rcases hspoilt with ⟨hposts, hspoilt⟩ | ⟨hposts, hspoilt⟩
    · obtain ⟨fault, hfault⟩ := RouteRequest.ofBody_error hspoilt
      exact s.reply_config_of_error m seconds hposts (hbody ▸ hfault)
    · obtain ⟨fault, hfault⟩ := KeyRequest.ofBody_error hspoilt
      exact s.reply_pubkey_of_error m seconds hposts (hbody ▸ hfault)
  · intro m r seconds q hposts hbody
    exact s.reply_eq_routeReply m seconds hposts hbody
  · intro m r seconds q hposts hbody
    exact s.reply_eq_keyReply m seconds hposts hbody

/-- One username is spelled in two bodies: in an object, behind a member that nobody knows and that
    holds a wrong username and half a pair of surrogates; and in an array.  Both ask for the same
    route.  As a key request the first one lacks the key. -/
theorem reply_by_fields_spellings :
    let text (t : String) : List Piece := t.toList.map .ofChar
    let gap : Gap := ⟨[0x09, 0x20], by simp [Json.isSpace]⟩
    let label (key : List Piece) : Label := ⟨.empty, key, gap, .empty⟩
    let digit (n : UInt8) (h : Json.isDigit n = true) : Json.Figures := ⟨[n], by simpa, by simp⟩
    let number : Numeral := ⟨true, digit 0x31 rfl, by decide, some (digit 0x35 rfl),
      some ⟨0x65, .inl rfl, some 0x2b, by simp, digit 0x37 rfl⟩⟩
    let tags : Spelled := .array gap [
      (.empty, .object .empty [(label (text "username"), .number number, .empty)], gap),
      (.empty, .string [.unit ⟨⟨13, true⟩, ⟨8, false⟩, ⟨0, false⟩, ⟨0, false⟩⟩], .empty)]
    let key := text "user" ++ [.unit ⟨⟨0, false⟩, ⟨0, false⟩, ⟨6, false⟩, ⟨14, true⟩⟩] ++ text "ame"
    let username : Spelled := .string (text "alice#b" ++ [.escape .slash,
      .unit ⟨⟨13, false⟩, ⟨8, false⟩, ⟨3, false⟩, ⟨13, true⟩⟩,
      .unit ⟨⟨13, false⟩, ⟨14, false⟩, ⟨0, false⟩, ⟨0, false⟩⟩])
    let d : Document := ⟨gap, .object gap [(label (text "tags"), tags, gap),
      (label key, username, .empty)], gap⟩
    let d' : Document := ⟨.empty, .array .empty [(gap, username, gap)], .empty⟩
    let q : RouteRequest := ⟨"alice#b/" ++ String.singleton (Char.ofNat 0x1f600), "", "", ""⟩
    let s : Service := ⟨.ofList ["SHA256:a"],
      ⟨"listed", fun owner => .error (.notFound owner), .ok ()⟩⟩
    let reply := s.reply s.initial ⟨"POST", "/pubkey", .ofDocument d⟩ 0.5
    d.bytes = Text.bytes ("\t \x7b\t \"tags\"\t :[\t \x7b\"username\"\t :-1.5e+7\x7d\t ," ++
      "\"\\uD800\"]\t ,\"user\\u006Eame\"\t :\"alice#b\\/\\ud83D\\ude00\"\x7d\t ") ∧
      d.bytes.length ≤ 2097152 ∧ RouteRequest.ofBody (.ofDocument d) = .ok q ∧
      d'.bytes.length ≤ 2097152 ∧ RouteRequest.ofBody (.ofDocument d') = .ok q ∧
      reply.1.error? = some "bad_request" ∧ reply.2 = s.initial := by
  intro text gap label digit number tags key username d d' q s reply
  have hlength : d.bytes.length ≤ 2097152 := by decide +kernel
  have hlength' : d'.bytes.length ≤ 2097152 := by decide +kernel
  have htext : username.text? = some q.username := by decide +kernel
  obtain ⟨hroute, -, hrefused, -⟩ := reply_by_fields s d
  obtain ⟨hroute', -⟩ := reply_by_fields s d'
  refine ⟨by decide +kernel, hlength, ?_, hlength', ?_, ?_⟩
  · exact (hroute hlength q).2 ⟨by decide +kernel, ⟨username, rfl, htext⟩, .inr ⟨rfl, rfl⟩, .inr ⟨rfl, rfl⟩,
      .inr ⟨rfl, rfl⟩⟩
  · exact (hroute' hlength' q).2 ⟨by decide +kernel, ⟨username, rfl, htext⟩, .inr ⟨rfl, rfl⟩,
      .inr ⟨rfl, rfl⟩, .inr ⟨rfl, rfl⟩⟩
  · have hposts : Request.posts ⟨"POST", "/pubkey", .ofDocument d⟩ "/pubkey" := by
      refine ⟨rfl, ?_⟩
      show String.ofList ("/pubkey".toList.takeWhile (· ≠ '?')) = "/pubkey"
      decide
    have hmissing : d.value.Omits 3 "publicKey" := rfl
    exact (hrefused s.initial _ 0.5 rfl (.inr ⟨hposts, .inr (.inl hmissing)⟩)).2

end Service

end Gatehouse.Http
