import Gatehouse.Identity

/-! # Routes to backends

    For each connection the gateway is told which host to dial and which host keys it may
    accept there.  The host is the target of the username, verbatim; the accepted host
    keys are the same for every route. -/

namespace Gatehouse

/-! ## Trusted fingerprints -/

/-- Host-key fingerprints that the gateway may accept from a backend, each once, in the
    order of first mention. -/
structure FingerprintSet where
  toList : List String
  nodup  : toList.Nodup
  deriving DecidableEq

namespace FingerprintSet

/-- Puts a fingerprint at the end unless it is there already. -/
def insert (s : FingerprintSet) (fingerprint : String) : FingerprintSet :=
  if h : fingerprint ∈ s.toList then s
  else ⟨s.toList ++ [fingerprint], by
    rw [List.nodup_append]
    exact ⟨s.nodup, by simp, by rintro a ha b hb rfl; exact h (List.mem_singleton.1 hb ▸ ha)⟩⟩

/-- The set without a fingerprint. -/
def empty : FingerprintSet := ⟨[], List.nodup_nil⟩

/-- Collects fingerprints, dropping those already collected. -/
def ofList (fingerprints : List String) : FingerprintSet := fingerprints.foldl insert empty

def size (s : FingerprintSet) : Nat := s.toList.length

def isEmpty (s : FingerprintSet) : Bool := s.toList.isEmpty

theorem toList_insert (s : FingerprintSet) (f : String) :
    (s.insert f).toList = if f ∈ s.toList then s.toList else s.toList ++ [f] := by
  unfold insert
  split <;> simp_all

end FingerprintSet

/-! ## Routes -/

/-- The port on which every backend listens. -/
def backendPort : Nat := 2222

/-- The username under which the gateway itself logs in to a backend. -/
def proxyUsername : String := "envd"

/-- Where a connection goes. -/
structure Route where
  /-- The kind of backend that the gateway uses. -/
  backend      : String
  host         : String
  port         : Nat
  username     : String
  fingerprints : FingerprintSet
  deriving DecidableEq

/-- The route of a connection with the given username.  Whether the host can be reached is
    the gateway's concern. -/
def Route.resolve (fingerprints : FingerprintSet) (username : String) :
    Except MalformedIdentity Route :=
  (Identity.decode username).map fun identity =>
    { backend      := "sshproxy"
      host         := identity.target
      port         := backendPort
      username     := proxyUsername
      fingerprints := fingerprints }

end Gatehouse
