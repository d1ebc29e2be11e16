import Roaming.Proofs.LatestScan
import Roaming.Proofs.Merge

/-!
# What a registry stands for

A registry is a digest of the scans that it took, and `Represents` says how the two belong together.
The counter is the number of the scans. An access point that is stored is as the last scan that
lists it has it, and is dated with the number of that scan (`AccessPoint.LastListed`). So its date
lies between one and the counter, and its age is the number of scans that have left it unlisted
since. No link in use is without a latency, and neither the mark nor a latency is there before the
network to roam within is known.

One scan keeps all of that (`Represents.absorb`), so any scans do (`represents_absorbAll`). A merge
is taken row by row: what a row makes of an access point, known or new, is one sighting of it
(`Store.forall_sightAll`). Eviction alters nothing of what it leaves, and leaves nothing of an age
that the limits do not allow (`Store.fresh_of_mem_evict`).
-/

namespace Roaming

namespace AccessPoint

variable {a : AccessPoint} {scans : List (List Observation)} {rows : List Observation}

/-- An access point is as the last scan that lists it has it, and is dated with the number of that
scan. -/
def LastListed (scans : List (List Observation)) (a : AccessPoint) : Prop :=
  ∃ before rows after row, scans = before ++ rows :: after ∧ a.lastSeen = before.length + 1
    ∧ Observation.lastRow? rows a.bssid = some row ∧ a.Mirrors row
    ∧ ∀ later ∈ after, Observation.lastRow? later a.bssid = none

theorem LastListed.dated (h : a.LastListed scans) : 1 ≤ a.lastSeen ∧ a.lastSeen ≤ scans.length := by
  obtain ⟨before, rows, after, -, rfl, hseen, -⟩ := h
  rw [hseen, List.length_append, List.length_cons]
  omega

/-- A scan that does not list an access point leaves the last one that does. -/
theorem LastListed.concat (h : a.LastListed scans)
    (hunlisted : Observation.lastRow? rows a.bssid = none) : a.LastListed (scans ++ [rows]) := by
  obtain ⟨before, listing, after, row, rfl, hseen, hlast, hmirrors, hlater⟩ := h
  refine ⟨before, listing, after ++ [rows], row, ?_, hseen, hlast, hmirrors, ?_⟩
  · rw [List.append_assoc, List.cons_append]
  · intro later hmem
    rcases List.mem_append.1 hmem with hafter | hnew
    · exact hlater later hafter
    · obtain rfl := List.mem_singleton.1 hnew
      exact hunlisted

end AccessPoint

namespace Store

open AccessPoint

variable {s : Store} {gs : List Sighting} {a : AccessPoint} {scan : Nat}

/-- What every sighting makes of a new access point and keeps of a known one, a merge keeps. -/
theorem forall_sightAll {P : AccessPoint → Prop}
    (hnew : ∀ g ∈ gs, P ((ofObservation g.row).sightedIn scan g))
    (hknown : ∀ g ∈ gs, ∀ a, P a → P (a.sightedIn scan g)) (h : ∀ a ∈ s.toList, P a) :
    ∀ a ∈ (s.sightAll scan gs).toList, P a := by
  rw [sightAll]
  induction gs generalizing s with
  | nil => exact h
  | cons g gs ih =>
      rw [List.forall_mem_cons] at hnew hknown
      refine ih hnew.2 hknown.2 fun a ha => ?_
      rcases mem_insert_iff.1 ha with rfl | ⟨hold, -⟩
      · -- the access point that the row is about, stored or not
        cases hget : s.get? g.row.bssid with
        | none => exact hnew.1
        | some b => exact hknown.1 b (h b (get?_eq_some_iff.1 hget).1)
      · exact h a hold

/-- A link in use has been measured. -/
theorem measured_sightAll (h : ∀ a ∈ s.toList, a.inUse = true → a.latency.isSome = true) :
    ∀ a ∈ (s.sightAll scan gs).toList, a.inUse = true → a.latency.isSome = true := by
  have hsighted : ∀ (g : Sighting) (a : AccessPoint), (a.sightedIn scan g).inUse = true →
      (a.sightedIn scan g).latency.isSome = true := by
    intro g a hused
    rw [sightedIn_inUse, ← g.isSome_sample] at hused
    obtain ⟨sample, hsample⟩ := Option.isSome_iff_exists.1 hused
    rw [latency_sightedIn, hsample, Option.toList_some, Latency.smoothAll_singleton]
    rfl
  exact forall_sightAll (fun g _ => hsighted g _) (fun g _ a _ => hsighted g a) h

/-- Rows that are idle bring neither a mark nor a latency. -/
theorem silent_sightAll (hidle : ∀ row ∈ gs.map (·.row), row.inUse = false)
    (h : ∀ a ∈ s.toList, a.inUse = false ∧ a.latency = none) :
    ∀ a ∈ (s.sightAll scan gs).toList, a.inUse = false ∧ a.latency = none := by
  have hsighted : ∀ g ∈ gs, ∀ a : AccessPoint, a.latency = none →
      (a.sightedIn scan g).inUse = false ∧ (a.sightedIn scan g).latency = none := by
    intro g hg a hnone
    have hrow : g.row.inUse = false := hidle _ (List.mem_map_of_mem hg)
    have hsample : g.sample = none := by
      rw [← Option.isNone_iff_eq_none, ← Option.isSome_eq_false_iff, g.isSome_sample, hrow]
    rw [sightedIn_inUse, latency_sightedIn, hsample, hnone]
    exact ⟨hrow, rfl⟩
  exact forall_sightAll (fun g hg => hsighted g hg _ rfl) (fun g hg a ha => hsighted g hg a ha.2) h

/-- A merge dates what its scan lists with the number of the scan. -/
theorem lastListed_sightAll {scans : List (List Observation)}
    (h : ∀ a ∈ s.toList, a.LastListed scans) :
    ∀ a ∈ (s.sightAll (scans.length + 1) gs).toList, a.LastListed (scans ++ [gs.map (·.row)]) := by
  intro a ha
  have hget := get?_bssid ha
  cases hlast : Observation.lastRow? (gs.map (·.row)) a.bssid with
  | none =>
      rw [get?_sightAll_of_lastRow?_eq_none hlast] at hget
      exact (h a (get?_eq_some_iff.1 hget).1).concat hlast
  | some row =>
      obtain ⟨hmirrors, hseen⟩ := mirrors_of_get?_sightAll hget hlast
      exact ⟨scans, _, [], row, rfl, hseen, hlast, hmirrors, List.forall_mem_nil _⟩

/-- What eviction leaves has not been absent for too long. -/
theorem fresh_of_mem_evict {limits : Limits} (ha : a ∈ (s.evict limits scan).toList) :
    scan - a.lastSeen < limits.staleAfterScans.toNat := by
  obtain ⟨-, hfresh⟩ := mem_dropStale_iff.1 (mem_of_mem_dropFirst ha)
  rw [isStale, decide_eq_false_iff_not] at hfresh
  exact Nat.not_le.1 hfresh

end Store

namespace Registry

variable {r : Registry} {gs : List Sighting} {scans : List (List Observation)} {a : AccessPoint}

/-- A registry represents the scans that it took. -/
structure Represents (r : Registry) (scans : List (List Observation)) : Prop where
  counted : r.scans = scans.length
  listed : ∀ a ∈ r.store.toList, a.LastListed scans
  fresh : ∀ a ∈ r.store.toList, r.scans - a.lastSeen < r.limits.staleAfterScans.toNat
  measured : ∀ a ∈ r.store.toList, a.inUse = true → a.latency.isSome = true
  silent : r.target = none → ∀ a ∈ r.store.toList, a.inUse = false ∧ a.latency = none

theorem represents_empty (limits : Limits) : (empty limits).Represents [] where
  counted := rfl
  listed := List.forall_mem_nil _
  fresh := List.forall_mem_nil _
  measured := List.forall_mem_nil _
  silent _ := List.forall_mem_nil _

/-- As long as the network to roam within is unknown, no row is in use. -/
theorem target_absorb_eq_none_iff :
    (r.absorb gs).registry.target = none ↔
      r.target = none ∧ ∀ row ∈ gs.map (·.row), row.inUse = false := by
  show (r.target <|> r.learns? (gs.map (·.row))) = none ↔ _
  rw [learns?]
  cases r.target with
  | some ssid => simp
  | none => simp

/-- One more scan is represented as well. -/
theorem Represents.absorb (h : r.Represents scans) (gs : List Sighting) :
    (r.absorb gs).registry.Represents (scans ++ [gs.map (·.row)]) where
  counted := by
    rw [List.length_append, ← h.counted]
    rfl
  listed a ha := by
    have hmerged := Store.mem_of_mem_evict ha
    rw [h.counted] at hmerged
    exact Store.lastListed_sightAll h.listed a hmerged
  fresh _ ha := Store.fresh_of_mem_evict ha
  measured a ha := Store.measured_sightAll h.measured a (Store.mem_of_mem_evict ha)
  silent hunknown a ha := by
    obtain ⟨hbefore, hidle⟩ := target_absorb_eq_none_iff.1 hunknown
    exact Store.silent_sightAll hidle (h.silent hbefore) a (Store.mem_of_mem_evict ha)

/-- **A registry stands for its scans**: whatever scans it absorbed, it represents them. -/
theorem represents_absorbAll (limits : Limits) (history : List (List Sighting)) :
    ((empty limits).absorbAll history).Represents (rowsOf history) := by
  induction history using List.reverseRecOn with
  | nil => exact represents_empty limits
  | append_singleton history gs ih =>
      rw [absorbAll_append, rowsOf_append]
      exact ih.absorb gs

/-- No candidate is the active link. -/
theorem bssid_ne_of_active {link c : AccessPoint} (hactive : r.active = .ok link)
    (hc : c ∈ r.candidates) : c.bssid ≠ link.bssid := by
  obtain ⟨hlink, hused⟩ := current_of_active hactive
  obtain ⟨hcurrent, hidle⟩ := mem_candidates_iff.1 hc
  intro hbssid
  obtain rfl := Store.eq_of_bssid_eq (mem_current_iff.1 hcurrent).1 (mem_current_iff.1 hlink).1
    hbssid
  exact Bool.false_ne_true (hidle.symm.trans hused)

end Registry

end Roaming
