import Roaming.Proofs.Naming

/-!
# When a registry knows of no link

A registry without an active link is to mean that the scan lists no row in use with the target
network. It does not always: the network is learned from a row, but looked for under the name that
each access point is stored under, which is that of the row that made it known. So a scan may make a
network known by a row in use and leave the registry without a link at once, if the access point of
that row was listed under another name before. The mark of a row is lost as well if a later row of
the same access point is idle (`rows_in_use_without_link`).

What holds is `unassociated_iff`. There is no link exactly if no access point shows one
(`ShowsLink`), whatever the bound on access points, because room is never made at the expense of
what is in use. Where the rows in use speak for their access points (`Faithful`), the two errors
cannot occur, and the link is missing exactly if no row in use has the target network.
-/

namespace Roaming.Registry

variable {limits : Limits} {r : Registry} {gs : List Sighting} {history : List (List Sighting)}
  {row : Observation} {a : AccessPoint}

/-- A row shows the link of a registry: it is the last row of its access point in the latest scan,
it is in use, and the access point is stored under the target network, which is that of the row that
made it known. -/
structure ShowsLink (limits : Limits) (earlier : List (List Observation))
    (latest : List Observation) (r : Registry) (row : Observation) : Prop where
  last : Observation.lastRow? latest row.bssid = some row
  inUse : row.inUse = true
  named : ∃ stored named, r.get? row.bssid = some stored ∧ stored.ssid = named.ssid
    ∧ NamedBy limits (earlier ++ [latest]) r row.bssid named ∧ r.target = some named.ssid

/-- What the last rows of a scan have in use is stored after it, as these rows say. -/
theorem stored_of_inUse (hstale : 0 < r.limits.staleAfterScans.toNat)
    (hlast : Observation.lastRow? (gs.map (·.row)) row.bssid = some row)
    (hused : row.inUse = true) :
    ∃ a, (r.absorb gs).registry.get? row.bssid = some a ∧ a.Mirrors row
      ∧ a.lastSeen = (r.absorb gs).registry.scans := by
  have hmerged : ∃ a, (r.store.sightAll (r.scans + 1) gs).get? row.bssid = some a ∧ a.Mirrors row
      ∧ a.lastSeen = r.scans + 1 := Store.get?_sightAll_of_lastRow?_eq_some hlast
  obtain ⟨a, hget, hmirrors, hseen⟩ := hmerged
  obtain ⟨hmem, hbssid⟩ := Store.get?_eq_some_iff.1 hget
  refine ⟨a, Store.get?_eq_some_iff.2 ⟨?_, hbssid⟩, hmirrors, hseen⟩
  exact Store.mem_evict_of_live hstale hmem hseen (hmirrors.inUse.trans hused)

/-- With a current access point in use there is an active link. -/
theorem active_ne_error_of_current (ha : a ∈ r.current) (hused : a.inUse = true)
    (failure : Failure) : r.active ≠ .error failure := by
  intro herror
  obtain ⟨hnone, -⟩ := active_eq_error_iff.1 herror
  exact absurd hused (List.find?_eq_none.1 hnone a ha)

section LatestScan

variable {r : Registry}

/-- There is an active link if the last row of some access point has it in use, and it is stored
under the target network. -/
theorem active_ne_error_of_shown (hstale : 0 < limits.staleAfterScans.toNat)
    (hr : r = (empty limits).absorbAll (history ++ [gs]))
    (hlast : Observation.lastRow? (gs.map (·.row)) row.bssid = some row) (hused : row.inUse = true)
    (htarget : ∀ stored, r.get? row.bssid = some stored → r.target = some stored.ssid)
    (failure : Failure) : r.active ≠ .error failure := by
  rw [absorbAll_append] at hr
  have hstale' : 0 < ((empty limits).absorbAll history).limits.staleAfterScans.toNat := by
    rw [limits_absorbAll]
    exact hstale
  obtain ⟨a, hget, hmirrors, hseen⟩ := stored_of_inUse hstale' hlast hused
  subst hr
  obtain ⟨hmem, -⟩ := Store.get?_eq_some_iff.1 hget
  exact active_ne_error_of_current (mem_current_iff.2 ⟨hmem, hseen, htarget a hget⟩)
    (hmirrors.inUse.trans hused) failure

/-- An active link is shown by its last row. -/
theorem exists_showsLink_of_active (hr : r = (empty limits).absorbAll (history ++ [gs]))
    (h : r.active = .ok a) :
    ∃ row, a.Mirrors row ∧ ShowsLink limits (rowsOf history) (gs.map (·.row)) r row := by
  subst hr
  obtain ⟨hcurrent, hused⟩ := current_of_active h
  obtain ⟨-, stored, named, hget, htarget, hnamed, hssid, -⟩ := namedForTarget_of_current hcurrent
  rw [absorbAll_append] at hcurrent
  obtain ⟨row, hlast, hmirrors⟩ := (dated_empty limits).absorbAll.mirrors_of_current hcurrent
  rw [hmirrors.bssid] at hlast hget hnamed
  refine ⟨row, hmirrors, hlast, ?_, stored, named, hget, hssid, hnamed, ?_⟩
  · rw [← hmirrors.inUse, hused]
  · rw [htarget, hssid]

end LatestScan

/-- The rows in use of a scan speak for their access points: no later row takes a mark back, and the
name in the row is the one under which the access point is stored. -/
structure Faithful (latest : List Observation) (r : Registry) : Prop where
  marks : ∀ row ∈ latest, row.inUse = true →
    ∃ last, Observation.lastRow? latest row.bssid = some last ∧ last.inUse = true
  names : ∀ row ∈ latest, row.inUse = true → ∀ stored, r.get? row.bssid = some stored →
    stored.ssid = row.ssid

/-- **There is no link exactly if no row shows one**, whatever came before, however many access
points there are and whatever the bound on them is. Where the rows in use speak for their access
points there is no link exactly if no row in use has the target network. And right after the scan
from which the network was learned there is a link, if the row it was learned from speaks for its
access point. -/
theorem unassociated_iff {σ : Type} (measure : Action σ Float) (s : σ) {limits : Limits}
    (hstale : 1 ≤ limits.staleAfterScans) (earlier : List (List Observation))
    (latest : List Observation) :
    let r := ((empty limits).refreshAll measure (earlier ++ [latest]) s).value
    (∀ failure, r.active = .error failure → failure = .notConnected r.target)
      ∧ (r.active = .error (.notConnected r.target) ↔
        ∀ row, ¬ ShowsLink limits earlier latest r row)
      ∧ (Faithful latest r →
        (r.active = .error (.notConnected r.target) ↔
          ∀ row ∈ latest, row.inUse = true → r.target ≠ some row.ssid))
      ∧ ∀ first last, ((empty limits).refreshAll measure earlier s).value.target = none →
        latest.find? (·.inUse) = some first →
        Observation.lastRow? latest first.bssid = some last → last.inUse = true →
        (∀ stored, r.get? first.bssid = some stored → stored.ssid = first.ssid) →
        ∃ link, r.active = .ok link := by
  intro r
  have hpos : 0 < limits.staleAfterScans.toNat := UInt64.le_iff_toNat_le.1 hstale
  obtain ⟨history, gs, rfl, rfl, hr⟩ := exists_refreshAll_eq_absorb measure limits earlier latest s
  change r = _ at hr
  -- what the last row of an access point has in use rules an error out
  have hshown : ∀ {row last : Observation},
      Observation.lastRow? (gs.map (·.row)) row.bssid = some last → last.inUse = true →
      (∀ stored, r.get? row.bssid = some stored → r.target = some stored.ssid) →
      ∀ failure, r.active ≠ .error failure := by
    intro row last hlast hused htarget
    obtain ⟨-, hbssid⟩ := Observation.lastRow?_mem hlast
    rw [← hbssid] at hlast htarget
    exact active_ne_error_of_shown hpos hr hlast hused htarget
  refine ⟨?_, ⟨?_, ?_⟩, ?_, ?_⟩
  · intro failure herror
    exact (active_eq_error_iff.1 herror).2
  · rintro herror row ⟨hlast, hused, stored, named, hget, hssid, -, htarget⟩
    refine hshown hlast hused (fun stored' hget' => ?_) _ herror
    obtain rfl := Option.some.inj (hget.symm.trans hget')
    rw [htarget, hssid]
  · intro hnone
    cases hactive : r.active with
    | error failure => rw [(active_eq_error_iff.1 hactive).2]
    | ok a =>
        obtain ⟨row, -, hshows⟩ := exists_showsLink_of_active hr hactive
        exact absurd hshows (hnone row)
  · intro hfaithful
    constructor
    · intro herror row hrow hused htarget
      obtain ⟨last, hlast, hlastUsed⟩ := hfaithful.marks row hrow hused
      refine hshown hlast hlastUsed (fun stored hget => ?_) _ herror
      rw [htarget, hfaithful.names row hrow hused stored hget]
    · intro hnone
      cases hactive : r.active with
      | error failure => rw [(active_eq_error_iff.1 hactive).2]
      | ok a =>
          obtain ⟨row, -, hlast, hused, stored, named, hget, hssid, -, htarget⟩ :=
            exists_showsLink_of_active hr hactive
          obtain ⟨hrow, -⟩ := Observation.lastRow?_mem hlast
          refine absurd ?_ (hnone row hrow hused)
          rw [htarget, ← hssid, hfaithful.names row hrow hused stored hget]
  · intro first last hunknown hfirst hlast hused hname
    have htarget : r.target = some first.ssid := by
      rw [target_refreshAll] at hunknown
      have hlatest : [gs.map (·.row)].flatten = gs.map (·.row) := List.append_nil _
      rw [show r.target = _ from target_refreshAll measure limits _ s, List.flatten_append, hlatest]
      exact firstInUse?_append_of_none hunknown hfirst
    cases hactive : r.active with
    | ok link => exact ⟨link, rfl⟩
    | error failure =>
        refine absurd hactive (hshown hlast hused (fun stored hget => ?_) failure)
        rw [htarget, hname stored hget]

/-- Room for one access point, which may not miss a scan: two links in use keep the registry
associated with "home", and it has no link once "BB" is idle and "DD" of another network in use. -/
theorem unassociated_iff_in_tight_limits :
    let limits : Limits := { maxEntries := 1, staleAfterScans := 1 }
    let learning : List Observation :=
      [⟨false, "AA", "home", 40, 54⟩, ⟨true, "BB", "home", 60, 100⟩, ⟨true, "CC", "home", 70, 100⟩]
    let lost : List Observation := [⟨false, "BB", "home", 60, 100⟩, ⟨true, "DD", "cafe", 80, 100⟩]
    let after := fun scans : List (List Observation) =>
      ((empty limits).refreshAll (pure 20.0 : Action Unit Float) scans ()).value
    1 ≤ limits.staleAfterScans ∧ (∃ link, (after [learning]).active = .ok link)
      ∧ ∀ row, ¬ ShowsLink limits [learning] lost (after [learning, lost]) row := by
  intro limits learning lost after
  have hstale : 1 ≤ limits.staleAfterScans := by decide
  refine ⟨hstale, ?_, ?_⟩
  · refine (unassociated_iff (pure 20.0) () hstale [] learning).2.2.2
      ⟨true, "BB", "home", 60, 100⟩ ⟨true, "BB", "home", 60, 100⟩ rfl rfl rfl rfl ?_
    intro stored hget
    have hssid : ((after [learning]).get? "BB").map (·.ssid) = some "home" := by decide +kernel
    rw [show (after [learning]).get? "BB" = some stored from hget] at hssid
    exact Option.some.inj hssid
  · refine (unassociated_iff (pure 20.0) () hstale [learning] lost).2.1.1 ?_
    rw [active_eq_error_iff]
    decide +kernel

/-- Rows in use do not settle whether there is a link. "AA" is listed in use and then idle, and
there is none; "AA" is known as "guest", is then in use as "home", from which the network is
learned, and there is none; "AA" is known as "home", is then in use as "guest", and there is one. -/
theorem rows_in_use_without_link :
    let after := fun scans : List (List Observation) =>
      ((empty Settings.default.limits).refreshAll (pure 20.0 : Action Unit Float) scans ()).value
    let twice : List Observation := [⟨true, "AA", "home", 50, 100⟩, ⟨false, "AA", "home", 50, 100⟩]
    let guest : List Observation := [⟨false, "AA", "guest", 50, 100⟩]
    let home : List Observation := [⟨true, "AA", "home", 50, 100⟩]
    let roamed : List Observation := [⟨true, "AA", "guest", 50, 100⟩]
    ((after [twice]).active.map (·.bssid) = .error (.notConnected (some "home"))
        ∧ ∃ row ∈ twice, row.inUse = true ∧ (after [twice]).target = some row.ssid)
      ∧ ((after [guest]).target = none
        ∧ (after [guest, home]).active.map (·.bssid) = .error (.notConnected (some "home"))
        ∧ ∃ row ∈ home, row.inUse = true ∧ (after [guest, home]).target = some row.ssid)
      ∧ (after [home, roamed]).active.map (·.bssid) = .ok "AA"
      ∧ ∀ row ∈ roamed, row.inUse = true → (after [home, roamed]).target ≠ some row.ssid := by
  decide +kernel

end Roaming.Registry
