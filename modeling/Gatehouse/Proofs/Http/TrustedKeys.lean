import Gatehouse.Proofs.Config.Fingerprints
import Gatehouse.Proofs.Http.Independence
import Gatehouse.Proofs.Http.Routing

/-! # The host keys that the gateway is told to trust

    What is trusted is settled when the program starts: the fingerprints of the configuration
    and those of its key files.  From then on every good reply to a route request hands out
    this list (`run_hands_out_trusted`), and the metrics tell its length. -/

namespace Gatehouse

/-- The exposition tells the number of fingerprints. -/
theorem Metrics.fingerprints_mem_lines (m : Metrics) :
    Exposition.sample "sshgate_trusted_fingerprints" (toString m.fingerprints) ∈ m.lines := by
  unfold lines linesIn Exposition.gauge
  simp

namespace Http.Service

/-- A service starts with the number of its fingerprints in the metrics and keeps it there. -/
theorem fingerprints_run_initial (s : Service) (rs : List (Request × Float)) :
    (s.run s.initial rs).2.fingerprints = s.fingerprints.toList.length :=
  s.fingerprints_run s.initial rs

/-- A service is given the fingerprints of a valid configuration, whose key files could all be
    read, and any store.  Then there is one list, such that
    * it has no repetitions, and each of its entries is `SHA256:` with something behind it;
    * every fingerprint written down is in it, and so is that of the key of every file;
    * nothing else is in it;
    * in every run, every good reply to a route request is read back as a document that hands
      out this list;
    * at every point of the run the metrics tell its length. -/
theorem run_hands_out_trusted {c : Config} {files : Files} {trusted : FingerprintSet}
    (hvalid : c.validate = .ok ()) (hload : c.routing.fingerprints files = .ok trusted)
    (store : Store) (rs : List (Request × Float)) :
    let s : Service := ⟨trusted, store⟩
    ∃ list : List String, list.Nodup ∧
      (∀ f ∈ list, ∃ rest, rest ≠ "" ∧ f = "SHA256:" ++ rest) ∧
      (∀ f ∈ c.routing.trustedFingerprints, f ∈ list) ∧
      (∀ path ∈ c.routing.hostKeyFiles, ∃ key, Key.ofFile path (files path) = .ok key ∧
        key.fingerprint ∈ list) ∧
      (∀ f ∈ list, f ∈ c.routing.trustedFingerprints ∨ ∃ path ∈ c.routing.hostKeyFiles, ∃ key,
        Key.ofFile path (files path) = .ok key ∧ key.fingerprint = f) ∧
      (∀ (i : Nat) (r : Request) (seconds : Float), rs[i]? = some (r, seconds) →
        r.posts "/config" → ∃ reply, (s.run s.initial rs).1[i]? = some reply ∧
          (reply.status = 200 → ∃ target,
            Json.parse? (Text.bytes reply.body) = some (routeDocument target list))) ∧
      ∀ i, let m := (s.run s.initial (rs.take i)).2
        m.fingerprints = list.length ∧
          Exposition.sample "sshgate_trusted_fingerprints" (toString list.length) ∈ m.lines := by
  intro s
  obtain ⟨-, hwritten, -⟩ := Config.validate_eq_ok_iff.1 hvalid
  -- The service never changes, so the list it was started with is the one of every reply.
  refine ⟨trusted.toList, trusted.nodup, ?_, ?_, ?_, ?_, ?_, ?_⟩
  · intro f hf
    exact Fingerprint.isPlausible_iff.1
      (RoutingSection.isPlausible_of_fingerprints hload hwritten hf)
  · intro f hf
    exact (RoutingSection.mem_fingerprints_iff hload).2 (.inl hf)
  · intro path hpath
    exact RoutingSection.exists_ofFile_of_fingerprints hload hpath
  · intro f hf
    exact (RoutingSection.mem_fingerprints_iff hload).1 hf
  · intro i r seconds hr hposts
    have hreply := s.getElem?_run s.initial rs i
    rw [hr] at hreply
    refine ⟨_, hreply, ?_⟩
    intro hstatus
    obtain ⟨q, identity, -, -, hroute⟩ := (status_eq_iff s _ seconds hposts).1 hstatus
    refine ⟨identity.target, ?_⟩
    show Json.parse? (Text.bytes (s.reply _ r seconds).1.body) = _
    rw [hroute]
    exact parse?_routeDocument _ _
  · intro i m
    have hgauge : m.fingerprints = trusted.toList.length := s.fingerprints_run_initial (rs.take i)
    refine ⟨hgauge, ?_⟩
    have hline := m.fingerprints_mem_lines
    rw [hgauge] at hline
    exact hline

/-- One fingerprint is written down, and one file is named twice: two are trusted, and the second
    request of a run hands them out. -/
theorem run_hands_out_trusted_twice :
    let files : Files := fun path =>
      if path = "host.pub" then .holding (Text.bytes
        "# backend\nssh-rsa AAAADHJzYS1zaGEyLTUxMgAAAAMBAAEAAAADAP8B box\n")
      else .absent
    let c : Config := ⟨.defaults, ⟨["SHA256:inline"], ["host.pub", "host.pub"]⟩,
      ⟨.static, none, Directory.empty⟩⟩
    let store : Store := ⟨"static", fun owner => .error (.notFound owner), .ok ()⟩
    let r : Request := ⟨"POST", "/config", ⟨some "application/json", Text.bytes
      "\x7b\"username\":\"alice#gpu-box-1\"\x7d"⟩⟩
    let rs := [(⟨"GET", "/healthz", ⟨none, []⟩⟩, 0.0), (r, 0.5)]
    c.validate = .ok () ∧ ∃ trusted, c.routing.fingerprints files = .ok trusted ∧
      trusted.toList.length = 2 ∧ rs[1]? = some (r, 0.5) ∧ r.posts "/config" ∧
      let s : Service := ⟨trusted, store⟩
      ∃ reply list target, (s.run s.initial rs).1[1]? = some reply ∧ "SHA256:inline" ∈ list ∧
        Json.parse? (Text.bytes reply.body) = some (routeDocument target list) := by
  intro files c store r rs
  let trusted : FingerprintSet := ⟨["SHA256:inline",
    "SHA256:wVIaTuUo8LnBdv+Gj+PIUt2dvgDaHPsqzQDLNQT17wg"], by decide⟩
  have hvalid : c.validate = .ok () := ok_of_toOption (by decide +kernel)
  have hload : c.routing.fingerprints files = .ok trusted := ok_of_toOption (by decide +kernel)
  have hposts : r.posts "/config" := by decide
  refine ⟨hvalid, trusted, hload, rfl, rfl, hposts, ?_⟩
  intro s
  obtain ⟨list, -, -, hwritten, -, -, hreplies, -⟩ :=
    run_hands_out_trusted hvalid hload store rs
  obtain ⟨reply, hreply, hroute⟩ := hreplies 1 r 0.5 rfl hposts
  have hbody : RouteRequest.ofBody r.body = .ok ⟨"alice#gpu-box-1", "", "", ""⟩ :=
    ok_of_toOption (by decide +kernel)
  have hstatus : reply.status = 200 := by
    have hdecode : Identity.decode "alice#gpu-box-1" = .ok ⟨"alice", "gpu-box-1"⟩ := rfl
    have hsame : some reply = some (s.reply s.initial r 0.5).1 := hreply.symm
    rw [Option.some.inj hsame, reply_of_decode hposts hbody hdecode]
    rfl
  obtain ⟨target, hread⟩ := hroute hstatus
  exact ⟨reply, list, target, hreply, hwritten _ (List.mem_singleton.2 rfl), hread⟩

end Http.Service

end Gatehouse
