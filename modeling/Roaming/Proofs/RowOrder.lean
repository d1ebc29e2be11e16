import Roaming.Proofs.Merge

/-!
# The order of the rows of a scan

A scan is merged and measured row by row, and yet the order of its rows hardly matters as long as
each access point has one row (`row_order_is_immaterial`). What a merge leaves under a BSSID hangs
on the rows for that BSSID and their samples alone (`Store.get?_sightAll_eq_afterScan`), and a row
that stands alone does so in any order (`filter_eq_of_perm`).

The order can leak in two ways only. The first row in use makes its network known, and each row in
use takes the next sample. Both ways are closed if there is one row in use at most, and also if the
network is known already and the samples are all alike.
-/

namespace Roaming

/-- What stands alone in a list stands alone in any order of the list. -/
theorem filter_eq_of_perm {α : Type} {p : α → Bool} {as bs : List α} (h : as.Perm bs)
    (hone : (as.filter p).length ≤ 1) : as.filter p = bs.filter p := by
  have hperm := h.filter p
  cases has : as.filter p with
  | nil =>
      rw [has] at hperm
      exact hperm.nil_eq
  | cons a rest =>
      rw [has, List.length_cons] at hone
      obtain rfl : rest = [] := List.eq_nil_of_length_eq_zero (by omega)
      rw [has] at hperm
      exact (List.perm_singleton.1 hperm.symm).symm

/-- The same action a number of times. -/
def Action.times {σ α : Type} (n : Nat) (x : Action σ α) : Action σ (List α) :=
  (List.replicate n ()).mapM fun _ => x

/-- The measurements of a scan are as many as it has rows in use. -/
theorem Sighting.measureEach_eq_times {σ : Type} (measure : Action σ Float)
    (rows : List Observation) :
    measureEach measure rows = Action.times (rows.filter (·.inUse)).length measure := by
  rw [measureEach, Action.times, ← List.map_const', List.mapM_map]
  rfl

namespace Observation

variable {rows rows' : List Observation} {samples : List Float} {bssid : String}

/-- With one row for each access point, each BSSID has the same rows in any order. -/
theorem filter_bssid_eq_of_perm (h : rows.Perm rows') (hnodup : (rows.map (·.bssid)).Nodup)
    (bssid : String) :
    rows.filter (·.bssid == bssid) = rows'.filter (·.bssid == bssid) := by
  refine filter_eq_of_perm h ?_
  have hcount : (rows.map (·.bssid)).count bssid ≤ 1 := List.nodup_iff_count_le_one.1 hnodup bssid
  rw [List.count, List.countP_map, List.countP_eq_length_filter] at hcount
  exact hcount

/-- If all samples are alike, it does not matter which row takes which. -/
theorem samplesFor_of_alike {x : Float} (hlength : samples.length = (rows.filter (·.inUse)).length)
    (halike : ∀ sample ∈ samples, sample = x) :
    samplesFor rows samples bssid
      = ((rows.filter (·.bssid == bssid)).filter (·.inUse)).map fun _ => x := by
  obtain rfl : samples = (rows.filter (·.inUse)).map fun _ => x := by
    rw [List.map_const']
    exact List.eq_replicate_iff.2 ⟨hlength, halike⟩
  have hzip : (rows.filter (·.inUse)).zip ((rows.filter (·.inUse)).map fun _ => x)
      = (rows.filter (·.inUse)).map fun row => (row, x) := by
    rw [← List.zip_map', List.map_id']
  rw [samplesFor, hzip, List.filter_map, List.map_map, List.filter_comm]
  rfl

end Observation

namespace AccessPoint

open Observation

/-- With one row for each access point, the order of the rows does not show in what a scan leaves
under a BSSID, if it does not show in the samples for it. -/
theorem afterScan_eq_of_perm {rows rows' : List Observation} {samples : List Float} {bssid : String}
    (h : rows.Perm rows') (hnodup : (rows.map (·.bssid)).Nodup)
    (hsamples : samplesFor rows samples bssid = samplesFor rows' samples bssid) (scan : Nat)
    (before : Option AccessPoint) :
    afterScan scan rows samples bssid before = afterScan scan rows' samples bssid before := by
  have hrows := filter_bssid_eq_of_perm h hnodup bssid
  rw [afterScan, afterScan, firstRow?, firstRow?, lastRow?, lastRow?, hrows, hsamples]

end AccessPoint

namespace Registry

open Observation

/-- What a refresh does, in terms of its measurements. -/
theorem exists_refresh_eq {σ : Type} (measure : Action σ Float) (r : Registry)
    (rows : List Observation) (s : σ) :
    ∃ merged : Store,
      (∀ bssid, merged.get? bssid = AccessPoint.afterScan (r.scans + 1) rows
        (Sighting.measureEach measure rows s).value bssid (r.store.get? bssid))
      ∧ r.refresh measure rows s =
        ⟨⟨{ r with store := merged.evict r.limits (r.scans + 1),
                   target := r.target <|> r.learns? rows, scans := r.scans + 1 },
            merged.size - (merged.dropStale r.limits (r.scans + 1)).size,
            (merged.dropStale r.limits (r.scans + 1)).size
              - (merged.evict r.limits (r.scans + 1)).size⟩,
          (Sighting.measureEach measure rows s).events,
          (Sighting.measureEach measure rows s).state⟩ := by
  have hrows := Sighting.rows_takeAll measure rows s
  refine ⟨r.store.sightAll (r.scans + 1) (Sighting.takeAll measure rows s).value, ?_, ?_⟩
  · intro bssid
    rw [Store.get?_sightAll_eq_afterScan, hrows, Sighting.measureEach_apply]
  · rw [refresh_eq_absorb, absorb, hrows, Sighting.measureEach_apply]

/-- Neither of the two ways is open in which the order of rows can leak, given the samples of the
scan: one row at most is in use, or the network is known already and the samples are all alike. -/
def HidesOrder (r : Registry) (rows : List Observation) (samples : List Float) : Prop :=
  (rows.filter (·.inUse)).length ≤ 1
    ∨ r.target.isSome = true ∧ ∃ x, ∀ sample ∈ samples, sample = x

variable {r : Registry} {rows rows' : List Observation} {samples : List Float}

theorem HidesOrder.learns?_eq (h : r.HidesOrder rows samples) (hperm : rows.Perm rows') :
    r.learns? rows = r.learns? rows' := by
  rcases h with hone | ⟨hknown, -⟩
  · rw [learns?, learns?, ← List.head?_filter, ← List.head?_filter, filter_eq_of_perm hperm hone]
  · obtain ⟨ssid, hssid⟩ := Option.isSome_iff_exists.1 hknown
    rw [learns?, learns?, hssid]

theorem HidesOrder.samplesFor_eq (h : r.HidesOrder rows samples) (hperm : rows.Perm rows')
    (hnodup : (rows.map (·.bssid)).Nodup)
    (hlength : samples.length = (rows.filter (·.inUse)).length) (bssid : String) :
    samplesFor rows samples bssid = samplesFor rows' samples bssid := by
  rcases h with hone | ⟨-, x, halike⟩
  · rw [samplesFor, samplesFor, filter_eq_of_perm hperm hone]
  · have hlength' : samples.length = (rows'.filter (·.inUse)).length := by
      rw [hlength, (hperm.filter _).length_eq]
    rw [samplesFor_of_alike hlength halike, samplesFor_of_alike hlength' halike,
      filter_bssid_eq_of_perm hperm hnodup]

/-- **The order of the rows is immaterial**: let a scan have one row for each access point, and take
its rows in another order, with measurements that give the same results one after another. If one
row at most is in use, or if the network is known and the measurements all give the same, then the
registry is the same afterwards, and so is the number of measurements: one for each row in use. -/
theorem row_order_is_immaterial {σ τ : Type} (measure : Action σ Float)
    (measure' : Action τ Float) (r : Registry) {rows rows' : List Observation} (s : σ) (t : τ)
    (hperm : rows.Perm rows') (hnodup : (rows.map (·.bssid)).Nodup)
    (hresults : ∀ n, (Action.times n measure s).value = (Action.times n measure' t).value)
    (hhides : r.HidesOrder rows
      (Action.times (rows.filter (·.inUse)).length measure s).value) :
    let n := (rows.filter (·.inUse)).length
    ∃ refreshed,
      r.refresh measure rows s =
          ⟨refreshed, (Action.times n measure s).events, (Action.times n measure s).state⟩
        ∧ r.refresh measure' rows' t =
          ⟨refreshed, (Action.times n measure' t).events, (Action.times n measure' t).state⟩ := by
  intro n
  obtain ⟨merged, hmerged, hrefresh⟩ := exists_refresh_eq measure r rows s
  obtain ⟨merged', hmerged', hrefresh'⟩ := exists_refresh_eq measure' r rows' t
  have hlength : (Sighting.measureEach measure rows s).value.length
      = (rows.filter (·.inUse)).length := by
    rw [Sighting.measureEach_apply, Sighting.length_samples, Sighting.rows_takeAll]
  have hcount : (rows'.filter (·.inUse)).length = (rows.filter (·.inUse)).length :=
    (hperm.filter _).length_eq.symm
  rw [Sighting.measureEach_eq_times] at hmerged hrefresh hlength
  rw [Sighting.measureEach_eq_times, hcount] at hmerged' hrefresh'
  obtain rfl : merged = merged' := by
    refine Store.ext_get? fun bssid => ?_
    rw [hmerged, hmerged', ← hresults]
    exact AccessPoint.afterScan_eq_of_perm hperm hnodup
      (hhides.samplesFor_eq hperm hnodup hlength bssid) _ _
  refine ⟨_, hrefresh, ?_⟩
  rw [hrefresh', hhides.learns?_eq hperm]

/-- Two links in use and room for one access point: with a known network and equal samples, three
rows leave the same registry in either order, after two measurements. -/
theorem row_order_is_immaterial_with_two_links :
    let r := ((empty { maxEntries := 1, staleAfterScans := 3 }).refresh
      (pure 20.0 : Action Unit Float) [⟨true, "AA", "home", 50, 100⟩] ()).value.registry
    let rows : List Observation :=
      [⟨true, "AA", "home", 50, 100⟩, ⟨true, "BB", "cafe", 60, 100⟩, ⟨false, "CC", "home", 70, 54⟩]
    let counted : Action Nat Float := fun count => ⟨20.0, [], count + 1⟩
    rows.Perm rows.reverse ∧ (rows.map (·.bssid)).Nodup
      ∧ r.HidesOrder rows (Action.times 2 counted 0).value
      ∧ ∃ refreshed, r.refresh counted rows 0 = ⟨refreshed, [], 2⟩
        ∧ r.refresh counted rows.reverse 0 = ⟨refreshed, [], 2⟩ := by
  intro r rows counted
  have hperm : rows.Perm rows.reverse := (List.reverse_perm rows).symm
  have hnodup : (rows.map (·.bssid)).Nodup := by decide
  have hhides : r.HidesOrder rows (Action.times 2 counted 0).value := by
    refine .inr ⟨by decide +kernel, 20.0, ?_⟩
    intro sample hmem
    have hsamples : sample ∈ [20.0, 20.0] := hmem
    simpa using hsamples
  exact ⟨hperm, hnodup, hhides,
    row_order_is_immaterial counted counted r 0 0 hperm hnodup (fun _ => rfl) hhides⟩

end Registry

end Roaming
