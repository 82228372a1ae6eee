import Gatehouse.Proofs.Http.Agreement
import Gatehouse.Proofs.Result

/-! # Listed users and users in a table

    The same users may be listed in the configuration or stand in a table of a database.  The
    gateway cannot tell: asked the same requests, a service over the list and one over the
    table give the same replies (`run_of_holds`).  Only whoever asks for the health of the
    store learns which of the two it is. -/

namespace Gatehouse.Http.Service

section health
variable {s : Service} {m : Metrics} {r : Request} {seconds : Float}

/-- A store that answers is healthy, and what is said about it is its kind. -/
theorem reply_healthy (hping : s.store.ping = .ok ()) (hpath : r.path = "/healthz")
    (hget : r.method = "GET") :
    (s.reply m r seconds).1 = .json 200 (healthJson true s.store.kind) := by
  have hhealth : s.health = .health true s.store.kind := by
    unfold health
    rw [hping]
  rw [reply_of_answer (answer_health s m seconds hpath), hget, hhealth]
  rfl

/-- Without a body there is nothing to tell the kind of a store that answers. -/
theorem reply_healthy_congr {other : Service} {m' : Metrics} {seconds' : Float}
    (hping : s.store.ping = .ok ()) (hping' : other.store.ping = .ok ())
    (hpath : r.path = "/healthz") (hget : r.method ≠ "GET") :
    (s.reply m r seconds).1 = (other.reply m' r seconds').1 := by
  rw [reply_of_answer (answer_health s m seconds hpath),
    reply_of_answer (answer_health other m' seconds' hpath)]
  by_cases hhead : r.method = "HEAD"
  · unfold health
    simp only [hhead, hping, hping', or_true, if_true]
    rfl
  · simp only [hget, hhead, or_self, if_false]

end health

/-- A service over listed users and one over a table that holds them, asked the same requests:
    * all replies are the same but those about the metrics and the health of the store;
    * expositions of the metrics may differ in the durations of key checks, and if each of
      these has a bucket, not in the number of those that do;
    * both stores are healthy, and only the body that says so names the store. -/
theorem run_of_holds (fingerprints : FingerprintSet) {table : List UserRow} {users : MemoryStore}
    (htable : Database.Holds table users) {rs rs' : List (Request × Float)}
    (hrequests : rs.map Prod.fst = rs'.map Prod.fst) {i : Nat} {r : Request} {seconds : Float}
    (hr : rs[i]? = some (r, seconds)) :
    let s : Service := ⟨fingerprints, users.toStore⟩
    let s' : Service := ⟨fingerprints, (Database.rows table).toStore⟩
    ∃ reply reply', (s.run s.initial rs).1[i]? = some reply ∧
      (s'.run s'.initial rs').1[i]? = some reply' ∧
      (r.path ≠ "/healthz" → r.path ≠ "/metrics" → reply = reply') ∧
      (r.path = "/metrics" → reply.SameApart Metrics.durationNames reply' ∧
        ((∀ e ∈ rs ++ rs', Histogram.Fits e.2) →
          reply.SameApart Metrics.durationNames.dropLast reply')) ∧
      (r.path = "/healthz" → r.method = "GET" →
        reply = .json 200 (healthJson true "static") ∧
          reply' = .json 200 (healthJson true "postgres")) ∧
      (r.path = "/healthz" → r.method ≠ "GET" → reply = reply') := by
  intro s s'
  have h : s.LooksLike s' := ⟨rfl, Database.sameButReasons_of_holds htable⟩
  obtain ⟨seconds', m, m', hreply, hreply', hm, hcomplete⟩ := exists_replies h hrequests hr
  refine ⟨_, _, hreply, hreply', (reply_looksLike h hm).2, ?_, ?_, ?_⟩
  · intro hpath
    refine ⟨reply_metrics hpath hm.sameApart, ?_⟩
    intro hfits
    obtain ⟨hall, hall'⟩ := hcomplete hfits
    exact reply_metrics hpath (hm.sameApart_of_complete hall hall')
  · intro hpath hget
    exact ⟨reply_healthy rfl hpath hget, reply_healthy rfl hpath hget⟩
  · intro hpath hget
    exact reply_healthy_congr rfl rfl hpath hget

/-- Two users, and a table with their rows in another order and with rows that repeat their
    names.  Both services accept the key of one of them. -/
theorem run_of_holds_repeated :
    let blob : List UInt8 := [0, 0, 0, 7, 0x73, 0x73, 0x68, 0x2d, 0x72, 0x73, 0x61, 0, 0, 0, 3, 1,
      0, 1, 0, 0, 0, 3, 0, 255, 1]
    let users : MemoryStore := (Directory.empty.insert "alice" blob).insert "bob" [2]
    let table : List UserRow :=
      [⟨"bob", some [2]⟩, ⟨"alice", some blob⟩, ⟨"bob", some [3]⟩, ⟨"alice", none⟩]
    let s : Service := ⟨.empty, users.toStore⟩
    let s' : Service := ⟨.empty, (Database.rows table).toStore⟩
    let body := "\x7b\"username\":\"alice#gpu-box-1\",\"publicKey\":\"" ++
      "ssh-rsa AAAADHJzYS1zaGEyLTUxMgAAAAMBAAEAAAADAP8B\"\x7d"
    let check : Request := ⟨"POST", "/pubkey", ⟨some "application/json", Text.bytes body⟩⟩
    let probe : Request := ⟨"GET", "/healthz", ⟨none, []⟩⟩
    let rs : List (Request × Float) := [(check, 0.5), (probe, 0.0)]
    let rs' : List (Request × Float) := [(check, 0.001), (probe, 0.0)]
    Database.Holds table users ∧ rs.map Prod.fst = rs'.map Prod.fst ∧
      (s.run s.initial rs).1[0]? = some (Answer.verdict true).reply ∧
      (s'.run s'.initial rs').1[0]? = some (Answer.verdict true).reply ∧
      (s.run s.initial rs).1[1]? = some (.json 200 (healthJson true "static")) ∧
      (s'.run s'.initial rs').1[1]? = some (.json 200 (healthJson true "postgres")) := by
  intro blob users table s s' body check probe rs rs'
  have hget (owner : String) : users.get? owner =
      if owner = "bob" then some [2] else if owner = "alice" then some blob else none := by
    rw [Directory.get?_insert, Directory.get?_insert, Directory.get?_empty]
  have htable : Database.Holds table users := by
    constructor
    · intro owner key howner
      rw [hget] at howner
      split at howner
      · obtain rfl := Option.some.inj howner
        subst owner
        exact ⟨[], _, rfl, by simp⟩
      · split at howner
        · obtain rfl := Option.some.inj howner
          subst owner
          exact ⟨[⟨"bob", some [2]⟩], _, rfl, by simp⟩
        · cases howner
    · intro owner howner
      rw [hget] at howner
      split at howner
      · cases howner
      · split at howner
        · cases howner
        · rename_i hbob halice
          simp [table, Ne.symm hbob, Ne.symm halice]
  have hrequests : rs.map Prod.fst = rs'.map Prod.fst := by
    simp only [rs, rs', List.map_cons, List.map_nil]
  have hcheck : rs[0]? = some (check, 0.5) := rfl
  have hprobe : rs[1]? = some (probe, 0.0) := rfl
  have haccepted : (s.run s.initial rs).1[0]? = some (Answer.verdict true).reply := by
    have hposts : check.posts "/pubkey" := by decide
    have hbody : KeyRequest.ofBody check.body = .ok ⟨"alice#gpu-box-1", "", "",
        "ssh-rsa AAAADHJzYS1zaGEyLTUxMgAAAAMBAAEAAAADAP8B"⟩ := ok_of_toOption (by decide +kernel)
    have hverify : verify s.store "alice#gpu-box-1"
        "ssh-rsa AAAADHJzYS1zaGEyLTUxMgAAAAMBAAEAAAADAP8B" = .ok true :=
      ok_of_toOption (by decide +kernel)
    rw [getElem?_run, hcheck, Option.map_some, reply_of_posts s _ 0.5 hposts,
      answer_pubkey s _ 0.5 hposts, pubkey_of_verdict s _ 0.5 hbody hverify]
  obtain ⟨reply, reply', hreply, hreply', hsame, -⟩ :=
    run_of_holds .empty htable hrequests hcheck
  obtain ⟨health, health', hhealth, hhealth', -, -, hstatus, -⟩ :=
    run_of_holds .empty htable hrequests hprobe
  obtain rfl : reply = reply' := hsame (by decide) (by decide)
  obtain ⟨rfl, rfl⟩ := hstatus (by decide) rfl
  -- The table replies as the listed users do, so it need not be looked into.
  have hverdict : reply = (Answer.verdict true).reply :=
    Option.some.inj (hreply.symm.trans haccepted)
  exact ⟨htable, hrequests, haccepted, hverdict ▸ hreply', hhealth, hhealth'⟩

end Gatehouse.Http.Service
