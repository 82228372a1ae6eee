import Gatehouse.Route

/-! # Sets of fingerprints and routes

    A set built from a list holds what the list holds, each fingerprint where it is first
    mentioned (`toList_ofList`).  A username has a route exactly if it can be taken apart,
    and of the username the route has the target only (`resolve_eq_ok_iff`).

    Core Lean 4 only. -/

namespace Gatehouse

namespace FingerprintSet

/-- Sets are told apart by their lists. -/
theorem ext_toList {s t : FingerprintSet} (h : s.toList = t.toList) : s = t := by
  cases s
  cases t
  congr

/-- Of what is put to a set, that is added which is new to it, at its first mention. -/
theorem toList_foldl_insert (s : FingerprintSet) (fs : List String) :
    (fs.foldl insert s).toList = s.toList ++ (fs.removeAll s.toList).eraseDups := by
  induction fs generalizing s with
  | nil => simp [List.removeAll]
  | cons f fs ih =>
    rw [List.foldl_cons, ih, toList_insert]
    by_cases hf : f ∈ s.toList
    · -- Known already: neither side takes notice of it.
      have hskip : (f :: fs).removeAll s.toList = fs.removeAll s.toList := by
        simp [List.removeAll, hf]
      rw [if_pos hf, hskip]
    · have hkeep : (f :: fs).removeAll s.toList = f :: fs.removeAll s.toList := by
        simp [List.removeAll, hf]
      have hlater : fs.removeAll (s.toList ++ [f]) =
          (fs.removeAll s.toList).filter fun g => !g == f := by
        simp only [List.removeAll, List.filter_filter]
        apply List.filter_congr
        intro g _
        by_cases hg : g = f <;> simp [hg]
      rw [if_neg hf, hkeep, hlater, List.eraseDups_cons, List.append_assoc, List.singleton_append]

/-- The set of a list is the list with each fingerprint at its first mention only. -/
theorem toList_ofList (fs : List String) : (ofList fs).toList = fs.eraseDups := by
  have hnone : fs.removeAll [] = fs := by simp [List.removeAll]
  unfold ofList
  rw [toList_foldl_insert]
  show [] ++ (fs.removeAll []).eraseDups = _
  rw [hnone, List.nil_append]

theorem mem_ofList {fs : List String} {f : String} : f ∈ (ofList fs).toList ↔ f ∈ fs := by
  rw [toList_ofList, List.mem_eraseDups]

end FingerprintSet

/-- A username that can be taken apart has a route, and no other one has. -/
theorem Route.resolve_eq_ok_iff {fingerprints : FingerprintSet} {username : String} {r : Route} :
    Route.resolve fingerprints username = .ok r ↔
      ∃ identity, Identity.decode username = .ok identity ∧
        r = ⟨"sshproxy", identity.target, backendPort, proxyUsername, fingerprints⟩ := by
  unfold Route.resolve
  cases Identity.decode username with
  | error e => simp [Except.map]
  | ok identity => simp [Except.map, eq_comm]

end Gatehouse
