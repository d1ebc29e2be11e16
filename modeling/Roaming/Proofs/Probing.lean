import Roaming.Proofs.LatencyHistory
import Roaming.Proofs.Room
import Roaming.Proofs.RowOrder

/-!
# How often a scan measures

A scan measures at each row in use, in the middle of the merge, and not for each access point that
is in use in the end. The difference is made by the rows in use that a later row for the same access
point overrules: there is a measurement for each of those, and one for each access point that ends
in use (`Observation.length_inUse`). Each measurement goes into the latency of the access point of
its row, so the same count holds for every BSSID by itself (`Observation.countP_own`).

Only if no row in use is overruled is every link that the scan leaves in use measured once, and
nothing else (`Registry.measurements_follow_rows`).
-/

namespace Roaming

namespace Observation

variable {row : Observation} {rows : List Observation} {bssid : String}

/-- Whether an access point is in use in its last row. -/
def endsInUse (rows : List Observation) (bssid : String) : Bool :=
  (lastRow? rows bssid).any (·.inUse)

/-- The rows in use behind which another row for the same access point follows. -/
def overruled : List Observation → List Observation
  | [] => []
  | row :: rows =>
    if row.inUse && rows.any (·.bssid == row.bssid) then row :: overruled rows else overruled rows

/-- A row in front of others is not the last one for a BSSID that they list. -/
theorem lastRow?_cons_of_listed (h : rows.any (·.bssid == bssid) = true) :
    lastRow? (row :: rows) bssid = lastRow? rows bssid := by
  obtain ⟨other, hmem, hother⟩ := List.any_eq_true.1 h
  rw [lastRow?, List.filter_cons]
  split
  · rw [List.getLast?_cons_of_ne_nil (List.ne_nil_of_mem (List.mem_filter.2 ⟨hmem, hother⟩))]
    rfl
  · rfl

theorem lastRow?_cons_of_ne (h : row.bssid ≠ bssid) :
    lastRow? (row :: rows) bssid = lastRow? rows bssid := by
  rw [lastRow?, List.filter_cons_of_neg (by simpa using h)]
  rfl

/-- A row in front of others is the last one for its BSSID if they do not list it. -/
theorem lastRow?_cons_of_unlisted (h : rows.any (·.bssid == row.bssid) = false) :
    lastRow? (row :: rows) row.bssid = some row := by
  have hnone : rows.filter (·.bssid == row.bssid) = [] := by
    simpa [List.any_eq_false] using h
  rw [lastRow?, List.filter_cons_of_pos (by simp), hnone]
  rfl

theorem endsInUse_cons_of_listed (h : rows.any (·.bssid == row.bssid) = true) (bssid : String) :
    endsInUse (row :: rows) bssid = endsInUse rows bssid := by
  by_cases hown : row.bssid = bssid
  · rw [hown] at h
    rw [endsInUse, lastRow?_cons_of_listed h, endsInUse]
  · rw [endsInUse, lastRow?_cons_of_ne hown, endsInUse]

theorem endsInUse_cons_of_ne (h : row.bssid ≠ bssid) :
    endsInUse (row :: rows) bssid = endsInUse rows bssid := by
  rw [endsInUse, lastRow?_cons_of_ne h, endsInUse]

theorem endsInUse_cons_of_unlisted (h : rows.any (·.bssid == row.bssid) = false) :
    endsInUse (row :: rows) row.bssid = row.inUse := by
  rw [endsInUse, lastRow?_cons_of_unlisted h]
  rfl

/-- A BSSID that no row has does not end in use. -/
theorem endsInUse_of_unlisted (h : rows.any (·.bssid == bssid) = false) :
    endsInUse rows bssid = false := by
  have hnone : rows.filter (·.bssid == bssid) = [] := by
    simpa [List.any_eq_false] using h
  rw [endsInUse, lastRow?, hnone]
  rfl

/-- **Rows in use**: there is one for each access point that ends in use, and else there are those
that are overruled. -/
theorem length_inUse (rows : List Observation) :
    (rows.filter (·.inUse)).length
      = (rows.map (·.bssid)).dedup.countP (endsInUse rows) + (overruled rows).length := by
  induction rows with
  | nil => rfl
  | cons row rows ih =>
      rw [List.map_cons, overruled]
      by_cases hlisted : rows.any (·.bssid == row.bssid) = true
      · -- the row is one more to be overruled, or idle
        have hmem : row.bssid ∈ rows.map (·.bssid) := by
          simpa using hlisted
        have hsame : endsInUse (row :: rows) = endsInUse rows :=
          funext (endsInUse_cons_of_listed hlisted)
        rw [List.dedup_cons_of_mem hmem, hsame, hlisted, Bool.and_true, List.filter_cons]
        by_cases hinUse : row.inUse = true
        · rw [if_pos hinUse, if_pos hinUse, List.length_cons, List.length_cons, ih]
          omega
        · rw [if_neg hinUse, if_neg hinUse, ih]
      · -- the row is the last one for a BSSID of its own
        have hmem : row.bssid ∉ rows.map (·.bssid) := by
          simpa using hlisted
        have hothers : (rows.map (·.bssid)).dedup.countP (endsInUse (row :: rows))
            = (rows.map (·.bssid)).dedup.countP (endsInUse rows) := by
          refine List.countP_congr fun bssid hbssid => ?_
          rw [endsInUse_cons_of_ne]
          rintro rfl
          exact hmem (List.mem_dedup.1 hbssid)
        rw [Bool.not_eq_true] at hlisted
        rw [List.dedup_cons_of_notMem hmem, List.countP_cons, hothers,
          endsInUse_cons_of_unlisted hlisted, hlisted, Bool.and_false, if_neg Bool.false_ne_true,
          List.filter_cons]
        by_cases hinUse : row.inUse = true
        · rw [if_pos hinUse, if_pos hinUse, List.length_cons, ih]
          omega
        · rw [if_neg hinUse, if_neg hinUse, ih]
          omega

/-- The rows in use for one BSSID: one if it ends in use, and those that are overruled. -/
theorem countP_own (rows : List Observation) (bssid : String) :
    rows.countP (fun row => row.bssid == bssid && row.inUse)
      = (if endsInUse rows bssid then 1 else 0) + (overruled rows).countP (·.bssid == bssid) := by
  induction rows with
  | nil => rfl
  | cons row rows ih =>
      rw [List.countP_cons, ih, overruled]
      by_cases hown : row.bssid = bssid
      · subst hown
        cases hlisted : rows.any (·.bssid == row.bssid) with
        | true =>
            rw [endsInUse_cons_of_listed hlisted]
            cases row.inUse <;> simp
            omega
        | false =>
            rw [endsInUse_cons_of_unlisted hlisted, endsInUse_of_unlisted hlisted]
            cases row.inUse <;> simp
            omega
      · have hother : (row.bssid == bssid) = false := beq_false_of_ne hown
        have hskip : ∀ c : Bool, (if c then row :: overruled rows else overruled rows).countP
            (·.bssid == bssid) = (overruled rows).countP (·.bssid == bssid) := by
          intro c
          cases c <;> simp [hother]
        rw [endsInUse_cons_of_ne hown, hskip, hother, Bool.false_and]
        rfl

/-- No row is overruled exactly if a row in use is the last one for its BSSID. -/
theorem overruled_eq_nil_iff :
    overruled rows = []
      ↔ rows.Pairwise fun row later => row.inUse = true → later.bssid ≠ row.bssid := by
  induction rows with
  | nil => exact iff_of_true rfl .nil
  | cons row rows ih =>
      rw [overruled, List.pairwise_cons, ← ih]
      by_cases hrow : (row.inUse && rows.any (·.bssid == row.bssid)) = true
      · rw [if_pos hrow]
        refine iff_of_false (List.cons_ne_nil _ _) ?_
        rintro ⟨hlater, -⟩
        obtain ⟨hinUse, hlisted⟩ := Bool.and_eq_true_iff.1 hrow
        obtain ⟨later, hmem, hsame⟩ := List.any_eq_true.1 hlisted
        exact hlater later hmem hinUse (beq_iff_eq.1 hsame)
      · rw [if_neg hrow, and_iff_right]
        intro later hmem hinUse hsame
        refine hrow (Bool.and_eq_true_iff.2 ⟨hinUse, List.any_eq_true.2 ⟨later, hmem, ?_⟩⟩)
        exact beq_iff_eq.2 hsame

/-- Each row in use for a BSSID has a sample for it. -/
theorem length_samplesFor {samples : List Float}
    (hlength : samples.length = (rows.filter (·.inUse)).length) (bssid : String) :
    (samplesFor rows samples bssid).length
      = rows.countP (fun row => row.bssid == bssid && row.inUse) := by
  have hfst : ((rows.filter (·.inUse)).zip samples).map Prod.fst = rows.filter (·.inUse) :=
    List.map_fst_zip (Nat.le_of_eq hlength.symm)
  calc (samplesFor rows samples bssid).length
      = ((rows.filter (·.inUse)).zip samples).countP ((·.bssid == bssid) ∘ Prod.fst) := by
        rw [samplesFor, List.length_map, List.countP_eq_length_filter]
        rfl
    _ = (rows.filter (·.inUse)).countP (·.bssid == bssid) := by
        rw [← List.countP_map, hfst]
    _ = rows.countP (fun row => row.bssid == bssid && row.inUse) := List.countP_filter

theorem mem_of_mem_samplesFor {samples : List Float} {sample : Float}
    (h : sample ∈ samplesFor rows samples bssid) : sample ∈ samples := by
  obtain ⟨⟨row, found⟩, hmem, rfl⟩ := List.mem_map.1 h
  exact (List.of_mem_zip (List.mem_filter.1 hmem).1).2

end Observation

/-- At most one sample is smoothed in once, or not at all. -/
theorem Latency.smoothAll_once {old latency : Option Float} {samples : List Float} {live : Bool}
    (h : latency = smoothAll old samples)
    (hlength : samples.length = if live = true then 1 else 0) :
    (live = true → ∃ sample ∈ samples, latency = some (smooth old sample))
      ∧ (live = false → latency = old) := by
  constructor
  · rintro rfl
    obtain ⟨sample, rfl⟩ := List.length_eq_one_iff.1 hlength
    rw [smoothAll_singleton] at h
    exact ⟨sample, List.mem_singleton_self sample, h⟩
  · rintro rfl
    rw [h, List.eq_nil_of_length_eq_zero hlength, smoothAll_nil]

namespace Registry

open Observation

section OneScan

variable {r : Registry} {gs : List Sighting} {a : AccessPoint}

/-- What a merge leaves is live exactly if it ends in use in the scan. -/
theorem Dated.isLive_eq (h : r.Dated) (ha : a ∈ (r.store.sightAll (r.scans + 1) gs).toList) :
    a.isLive (r.scans + 1) = endsInUse (gs.map (·.row)) a.bssid := by
  rw [AccessPoint.isLive, endsInUse]
  cases hlast : lastRow? (gs.map (·.row)) a.bssid with
  | some row =>
      obtain ⟨hmirrors, hseen⟩ := Store.mirrors_of_get?_sightAll (Store.get?_bssid ha) hlast
      rw [hmirrors.inUse, hseen, beq_self_eq_true, Bool.and_true]
      rfl
  | none =>
      have hunseen : a.lastSeen ≠ r.scans + 1 := by
        intro hseen
        obtain ⟨row, hrow, -⟩ := h.mirrors_of_seen ha hseen
        exact Option.some_ne_none row (hrow.symm.trans hlast)
      rw [beq_false_of_ne hunseen, Bool.and_false]
      rfl

/-- The live ones that a merge leaves are the access points that end in use. -/
theorem Dated.live_sightAll (h : r.Dated) :
    (r.store.sightAll (r.scans + 1) gs).live (r.scans + 1)
      = ((gs.map (·.row)).map (·.bssid)).dedup.countP (endsInUse (gs.map (·.row))) := by
  rw [← h.perm_seen.countP_eq, List.countP_map, List.countP_filter, Store.live]
  refine List.countP_congr fun a ha => ?_
  rw [Function.comp_apply, ← h.isLive_eq ha, AccessPoint.isLive, Bool.and_assoc, Bool.and_self]

/-- A scan measures once for each live access point that it leaves and for each row that it
overrules. -/
theorem Dated.length_inUse (h : r.Dated) :
    ((gs.map (·.row)).filter (·.inUse)).length
      = (r.store.sightAll (r.scans + 1) gs).live (r.scans + 1)
        + (overruled (gs.map (·.row))).length := by
  rw [Observation.length_inUse, h.live_sightAll]

/-- What a merge leaves has the samples of its own rows smoothed in. -/
theorem latency_of_mem_sightAll {scan : Nat} (ha : a ∈ (r.store.sightAll scan gs).toList) :
    a.latency = Latency.smoothAll ((r.get? a.bssid).bind (·.latency))
      (Sighting.samplesOf gs a.bssid) := by
  have hkept := Store.latency_sightAll scan r.store gs a.bssid
  rw [Store.get?_bssid ha, Option.bind_some] at hkept
  exact hkept

/-- What a merge leaves has one sample if it is live, and one for each of its rows that is
overruled. -/
theorem Dated.length_samplesOf (h : r.Dated)
    (ha : a ∈ (r.store.sightAll (r.scans + 1) gs).toList) :
    (Sighting.samplesOf gs a.bssid).length = (if a.isLive (r.scans + 1) then 1 else 0)
      + (overruled (gs.map (·.row))).countP (·.bssid == a.bssid) := by
  rw [Sighting.samplesOf_eq, length_samplesFor (Sighting.length_samples gs), countP_own,
    h.isLive_eq ha]

end OneScan

/-- **Measurements follow the rows**, not the access points: after any scans, a scan makes one
measurement for each access point that it leaves in use, and one more for each row in use that a
later row for the same access point overrules. Each access point has the samples of its own rows
smoothed into its latency: one if it is left in use, and one for each of its rows that is overruled.
So if no row in use is overruled, each one left in use takes one sample, and no other changes its
latency. -/
theorem measurements_follow_rows {σ : Type} (measure : Action σ Float) (limits : Limits)
    (earlier : List (List Observation)) (latest : List Observation) (s s' : σ) :
    let r := ((empty limits).refreshAll measure earlier s).value
    let scan := r.scans + 1
    let run := r.refresh measure latest s'
    let merged := (mergeRows measure scan r.store latest s').value
    let calls := merged.live scan + (overruled latest).length
    let measured := Action.times calls measure s'
    (run.events = measured.events ∧ run.state = measured.state)
      ∧ (∀ a ∈ merged.toList,
        let samples := samplesFor latest measured.value a.bssid
        a.latency = Latency.smoothAll ((r.get? a.bssid).bind (·.latency)) samples
          ∧ samples.length = (if a.isLive scan then 1 else 0)
            + (overruled latest).countP (·.bssid == a.bssid))
      ∧ ((latest.Pairwise fun row later => row.inUse = true → later.bssid ≠ row.bssid) →
        calls = merged.live scan
          ∧ ∀ a ∈ merged.toList,
            let old := (r.get? a.bssid).bind (·.latency)
            (a.isLive scan = true → ∃ sample ∈ measured.value,
              a.latency = some (Latency.smooth old sample))
            ∧ (a.isLive scan = false → a.latency = old)) := by
  intro r scan run merged calls measured
  have hdated : r.Dated := dated_refreshAll measure limits earlier s
  have hrows := Sighting.rows_takeAll measure latest s'
  have hmerged : merged = r.store.sightAll scan (Sighting.takeAll measure latest s').value := by
    show (mergeRows measure scan r.store latest s').value = _
    rw [mergeRows_eq_sightAll]
    rfl
  have hcalls : (latest.filter (·.inUse)).length = calls := by
    have hlength := @Dated.length_inUse r (Sighting.takeAll measure latest s').value hdated
    rw [hrows, ← hmerged] at hlength
    exact hlength
  have hmeasured : Sighting.measureEach measure latest s' = measured := by
    rw [Sighting.measureEach_eq_times, hcalls]
  have hown : ∀ bssid, samplesFor latest measured.value bssid
      = Sighting.samplesOf (Sighting.takeAll measure latest s').value bssid := by
    intro bssid
    rw [Sighting.samplesOf_eq, hrows, ← hmeasured, Sighting.measureEach_apply]
  have hlatency : ∀ a ∈ merged.toList,
      a.latency = Latency.smoothAll ((r.get? a.bssid).bind (·.latency))
        (samplesFor latest measured.value a.bssid) := by
    intro a ha
    rw [hown]
    exact latency_of_mem_sightAll (hmerged ▸ ha)
  have hcount : ∀ a ∈ merged.toList,
      (samplesFor latest measured.value a.bssid).length = (if a.isLive scan then 1 else 0)
        + (overruled latest).countP (·.bssid == a.bssid) := by
    intro a ha
    rw [hown, hdated.length_samplesOf (hmerged ▸ ha), hrows]
  refine ⟨?_, fun a ha => ⟨hlatency a ha, hcount a ha⟩, ?_⟩
  · have hrun : run = _ := refresh_eq_absorb measure r latest s'
    rw [hrun, ← hmeasured, Sighting.measureEach_apply]
    exact ⟨rfl, rfl⟩
  · intro hpairwise
    have hnone : overruled latest = [] := overruled_eq_nil_iff.2 hpairwise
    refine ⟨?_, fun a ha => ?_⟩
    · show merged.live scan + (overruled latest).length = _
      rw [hnone]
      rfl
    · have hlength := hcount a ha
      rw [hnone] at hlength
      obtain ⟨hlive, hidle⟩ := Latency.smoothAll_once (hlatency a ha) hlength
      refine ⟨fun h => ?_, hidle⟩
      obtain ⟨sample, hmem, hsample⟩ := hlive h
      exact ⟨sample, mem_of_mem_samplesFor hmem, hsample⟩

/-- A row in use that another one overrules is measured as well: two measurements for one link, and
one for a link that is idle in the end, whose latency it becomes. -/
theorem overruled_rows_are_measured :
    let counted : Action Nat Float := fun count => ⟨20.0, [], count + 1⟩
    let r := empty Settings.default.limits
    let after := fun rows : List Observation => r.refresh counted rows 0
    let merged := fun rows : List Observation => (mergeRows counted 1 r.store rows 0).value
    let twice : List Observation := [⟨true, "AA", "home", 50, 100⟩, ⟨true, "AA", "home", 50, 100⟩]
    let left : List Observation := [⟨true, "AA", "home", 50, 100⟩, ⟨false, "AA", "home", 50, 100⟩]
    ((after twice).state = 2 ∧ (merged twice).live 1 = 1)
      ∧ (after left).state = 1 ∧ (merged left).live 1 = 0
      ∧ ((merged left).get? "AA").bind (·.latency) = some 20.0 := by
  refine ⟨⟨rfl, by decide +kernel⟩, rfl, by decide +kernel, ?_⟩
  rfl

end Registry

end Roaming
