import Gatehouse.Proofs.Http.Acceptance
import Gatehouse.Proofs.Http.Agreement

/-! # Owners kept apart

    A reply depends on few things: the fingerprints, the health of the store, the verdict on
    the key if one is asked for, and the metrics if they are (`reply_congr`).  The verdict in
    turn depends on one record of the store, the one of the owner whom the username names.

    So what is on record for an owner can show in the replies to the key checks of this owner
    only, and there in one bit: whether the offered key is the registered one
    (`reply_isolates_owner`). -/

namespace Gatehouse.Http

/-- The request is a key check whose username names the owner. -/
def Request.ChecksKeyOf (r : Request) (owner : String) : Prop :=
  r.posts "/pubkey" ∧ ∃ q identity, KeyRequest.ofBody r.body = .ok q ∧
    Identity.decode q.username = .ok identity ∧ identity.owner = owner

/-- Verdicts are told apart by their replies. -/
theorem verdict_reply_ne_iff {p q : Prop} [Decidable p] [Decidable q] :
    (Answer.verdict (decide p)).reply ≠ (Answer.verdict (decide q)).reply ↔ (p ↔ ¬ q) := by
  have hsame : (Answer.verdict (decide p)).reply = (Answer.verdict (decide q)).reply ↔ (p ↔ q) := by
    constructor
    · intro h
      have htells := tellsVerdict_verdict (decide p)
      rw [h] at htells
      have hverdict := Answer.verdict.inj ((tellsVerdict_reply_iff _ _).1 htells)
      exact (decide_eq_decide.1 hverdict).symm
    · intro h
      rw [decide_eq_decide.2 h]
  rw [Ne, hsame]
  exact not_iff.trans (not_iff_comm.trans iff_comm)

namespace Service

/-! ## What a reply depends on -/

/-- All that a reply to the request depends on is the same for both services. -/
structure AgreeOn (r : Request) (s other : Service) (m m' : Metrics) : Prop where
  fingerprints : s.fingerprints = other.fingerprints
  health       : s.health = other.health
  verdict      : ∀ q, r.posts "/pubkey" → KeyRequest.ofBody r.body = .ok q →
    verify s.store q.username q.publicKey = verify other.store q.username q.publicKey
  metrics      : r.path = "/metrics" → m = m'

section congr
variable {s other : Service} {m m' : Metrics} {r : Request} {seconds seconds' : Float}

theorem config_congr (h : s.fingerprints = other.fingerprints) (body : Body) :
    (s.config m body).1 = (other.config m' body).1 := by
  cases hbody : RouteRequest.ofBody body with
  | error fault => rw [config_of_badRequest s m hbody, config_of_badRequest other m' hbody]
  | ok q =>
    cases hroute : Route.resolve s.fingerprints q.username with
    | error e =>
      rw [config_of_malformed s m hbody hroute, config_of_malformed other m' hbody (h ▸ hroute)]
    | ok route =>
      rw [config_of_route s m hbody hroute, config_of_route other m' hbody (h ▸ hroute)]

theorem pubkey_congr {body : Body}
    (h : ∀ q, KeyRequest.ofBody body = .ok q →
      verify s.store q.username q.publicKey = verify other.store q.username q.publicKey) :
    (s.pubkey m body seconds).1 = (other.pubkey m' body seconds').1 := by
  cases hbody : KeyRequest.ofBody body with
  | error fault =>
    rw [pubkey_of_badRequest s m seconds hbody, pubkey_of_badRequest other m' seconds' hbody]
  | ok q =>
    have hsame := h q hbody
    cases hverify : verify s.store q.username q.publicKey with
    | error cause =>
      rw [pubkey_of_undecided s m seconds hbody hverify,
        pubkey_of_undecided other m' seconds' hbody (hsame ▸ hverify)]
    | ok success =>
      rw [pubkey_of_verdict s m seconds hbody hverify,
        pubkey_of_verdict other m' seconds' hbody (hsame ▸ hverify)]

theorem answer_congr (h : AgreeOn r s other m m') :
    (s.answer m r seconds).1 = (other.answer m' r seconds').1 := by
  by_cases hconfig : r.posts "/config"
  · rw [answer_config s m seconds hconfig, answer_config other m' seconds' hconfig]
    exact config_congr h.fingerprints r.body
  · by_cases hpubkey : r.posts "/pubkey"
    · rw [answer_pubkey s m seconds hpubkey, answer_pubkey other m' seconds' hpubkey]
      exact pubkey_congr fun q hbody => h.verdict q hpubkey hbody
    · by_cases hhealth : r.path = "/healthz"
      · rw [answer_health s m seconds hhealth, answer_health other m' seconds' hhealth, h.health]
      · by_cases hmetrics : r.path = "/metrics"
        · rw [answer_metrics s m seconds hmetrics, answer_metrics other m' seconds' hmetrics,
            h.metrics hmetrics]
        · obtain ⟨a, ha⟩ := exists_answer hconfig hpubkey hhealth hmetrics
          rw [ha s m seconds, ha other m' seconds']

/-- Where services agree on what a reply depends on, the replies are the same, however long
    the key check takes on either side. -/
theorem reply_congr (h : AgreeOn r s other m m') :
    (s.reply m r seconds).1 = (other.reply m' r seconds').1 := by
  have hanswer : (s.answer m r seconds).1 = (other.answer m' r seconds').1 := answer_congr h
  unfold reply
  simp only [hanswer]

end congr

/-! ## Records of one owner -/

section owner
variable {s : Service} {m : Metrics} {r : Request} {seconds : Float}

/-- The reply to a key check that can be decided is the verdict, whole. -/
theorem reply_eq_verdict {record : UserRecord} {offered : AuthorizedKey}
    (h : s.Decides r record offered) :
    (s.reply m r seconds).1 = (Answer.verdict (decide (offered.blob = record.key))).reply := by
  rw [reply_of_posts s m seconds h.posts, answer_pubkey s m seconds h.posts]
  show (s.pubkey m r.body seconds).1.reply = _
  rw [pubkey_of_decides h]

end owner

/-- Two services hand out the same fingerprints, and their stores differ in one owner only.
    * A request that is no key check of this owner has the same reply from both.
    * If both stores have a record of the owner, a key check of the owner has different
      replies exactly if it offers a key that one of the two records holds and the other does
      not; the replies are then the two verdicts. -/
theorem reply_isolates_owner (fingerprints : FingerprintSet) {store store' : Store}
    {owner : String} (hkind : store.kind = store'.kind) (hping : store.ping = store'.ping)
    (hothers : ∀ other, other ≠ owner → store.lookup other = store'.lookup other)
    (r : Request) (seconds seconds' : Float) :
    let s : Service := ⟨fingerprints, store⟩
    let s' : Service := ⟨fingerprints, store'⟩
    let reply := (s.reply s.initial r seconds).1
    let reply' := (s'.reply s'.initial r seconds').1
    (¬ r.ChecksKeyOf owner → reply = reply') ∧
      ∀ record record', r.ChecksKeyOf owner → store.lookup owner = .ok record →
        store'.lookup owner = .ok record' →
        (reply ≠ reply' ↔ ∃ q offered, KeyRequest.ofBody r.body = .ok q ∧
          AuthorizedKey.parse q.publicKey = .ok offered ∧
          (offered.blob = record.key ↔ offered.blob ≠ record'.key) ∧
          reply = (Answer.verdict (decide (offered.blob = record.key))).reply ∧
          reply' = (Answer.verdict (decide (offered.blob = record'.key))).reply) := by
  intro s s' reply reply'
  have hhealth : s.health = s'.health := by
    unfold health
    simp only [s, s', hkind, hping]
  constructor
  · intro hother
    refine reply_congr ⟨rfl, hhealth, ?_, fun _ => rfl⟩
    intro q hposts hbody
    apply verify_congr
    intro identity hdecode
    have hne : identity.owner ≠ owner :=
      fun howner => hother ⟨hposts, q, identity, hbody, hdecode, howner⟩
    exact hothers _ hne
  · rintro record record' ⟨hposts, q, identity, hbody, hdecode, rfl⟩ hlookup hlookup'
    constructor
    · intro hdiffer
      cases hline : AuthorizedKey.parse q.publicKey with
      | error fault =>
        -- Neither record is looked at, so the replies are the same after all.
        exfalso
        apply hdiffer
        refine reply_congr ⟨rfl, hhealth, ?_, fun _ => rfl⟩
        intro q' _ hbody'
        obtain rfl : q = q' := Except.ok.inj (hbody.symm.trans hbody')
        rw [verify_of_line_error hdecode hlookup hline, verify_of_line_error hdecode hlookup' hline]
      | ok offered =>
        have hreply : reply = _ :=
          reply_eq_verdict (s := s) ⟨hposts, q, identity, hbody, hdecode, hlookup, hline⟩
        have hreply' : reply' = _ :=
          reply_eq_verdict (s := s') ⟨hposts, q, identity, hbody, hdecode, hlookup', hline⟩
        refine ⟨q, offered, hbody, hline, ?_, hreply, hreply'⟩
        rw [hreply, hreply'] at hdiffer
        exact verdict_reply_ne_iff.1 hdiffer
    · rintro ⟨q', offered, -, -, hone, hreply, hreply'⟩
      rw [hreply, hreply']
      exact verdict_reply_ne_iff.2 hone

/-- A store that lists a key for Alice and nobody else. -/
def onlyAlice (key : List UInt8) : Store :=
  ⟨"static", fun owner =>
    if owner = "alice" then .ok ⟨owner, key⟩ else .error (.notFound owner), .ok ()⟩

/-- With another key on record for Alice, her key is rejected instead of accepted, and Bob
    still does not exist. -/
theorem reply_isolates_owner_alice :
    let key : List UInt8 := [0, 0, 0, 7, 0x73, 0x73, 0x68, 0x2d, 0x72, 0x73, 0x61, 0, 0, 0, 3, 1,
      0, 1, 0, 0, 0, 3, 0, 255, 1]
    let s : Service := ⟨.empty, onlyAlice key⟩
    let s' : Service := ⟨.empty, onlyAlice [1]⟩
    let line := "ssh-rsa AAAADHJzYS1zaGEyLTUxMgAAAAMBAAEAAAADAP8B"
    let check (username : String) : Request :=
      ⟨"POST", "/pubkey", ⟨some "application/json", Text.bytes
        ("[\"" ++ username ++ "\",\"\",\"\",\"" ++ line ++ "\"]")⟩⟩
    s.store.kind = s'.store.kind ∧ s.store.ping = s'.store.ping ∧
      (∀ other, other ≠ "alice" → s.store.lookup other = s'.store.lookup other) ∧
      (¬ (check "bob#gpu-box-1").ChecksKeyOf "alice" ∧
        (s.reply s.initial (check "bob#gpu-box-1") 0.5).1 =
          (s'.reply s'.initial (check "bob#gpu-box-1") 0.25).1) ∧
      (check "alice#gpu-box-1").ChecksKeyOf "alice" ∧
      (s.reply s.initial (check "alice#gpu-box-1") 0.5).1 = (Answer.verdict true).reply ∧
      (s'.reply s'.initial (check "alice#gpu-box-1") 0.25).1 = (Answer.verdict false).reply := by
  intro key s s' line check
  have hothers : ∀ other, other ≠ "alice" → s.store.lookup other = s'.store.lookup other := by
    intro other hother
    show (if other = "alice" then _ else _) = if other = "alice" then _ else _
    rw [if_neg hother, if_neg hother]
  have hbody (username : String) (h : username = "alice#gpu-box-1" ∨ username = "bob#gpu-box-1") :
      KeyRequest.ofBody (check username).body = .ok ⟨username, "", "", line⟩ := by
    rcases h with rfl | rfl
    · exact ok_of_toOption (by decide +kernel)
    · exact ok_of_toOption (by decide +kernel)
  have hline : AuthorizedKey.parse line = .ok ⟨"ssh-rsa", key, none⟩ :=
    ok_of_toOption (by decide +kernel)
  have hdecode : Identity.decode "alice#gpu-box-1" = .ok ⟨"alice", "gpu-box-1"⟩ :=
    ok_of_toOption (by decide +kernel)
  have hdecode' : Identity.decode "bob#gpu-box-1" = .ok ⟨"bob", "gpu-box-1"⟩ :=
    ok_of_toOption (by decide +kernel)
  have halice : (check "alice#gpu-box-1").ChecksKeyOf "alice" :=
    ⟨by decide, _, _, hbody _ (.inl rfl), hdecode, rfl⟩
  have hbob : ¬ (check "bob#gpu-box-1").ChecksKeyOf "alice" := by
    rintro ⟨-, q, identity, hq, hidentity, howner⟩
    obtain rfl := Except.ok.inj ((hbody _ (.inr rfl)).symm.trans hq)
    obtain rfl := Except.ok.inj (hdecode'.symm.trans hidentity)
    exact absurd howner (by decide)
  have hisolates (r : Request) :=
    @reply_isolates_owner .empty (onlyAlice key) (onlyAlice [1]) "alice" rfl rfl hothers r 0.5 0.25
  refine ⟨rfl, rfl, hothers, ⟨hbob, ?_⟩, halice, ?_⟩
  · exact (hisolates _).1 hbob
  · have hdiffer : (s.reply s.initial (check "alice#gpu-box-1") 0.5).1 ≠
        (s'.reply s'.initial (check "alice#gpu-box-1") 0.25).1 := by decide +kernel
    obtain ⟨q, offered, hq, hparse, -, hreply, hreply'⟩ :=
      ((hisolates _).2 ⟨"alice", key⟩ ⟨"alice", [1]⟩ halice rfl rfl).1 hdiffer
    obtain rfl := Except.ok.inj ((hbody _ (.inl rfl)).symm.trans hq)
    obtain rfl := Except.ok.inj (hline.symm.trans hparse)
    exact ⟨hreply, hreply'⟩

end Service

end Gatehouse.Http
