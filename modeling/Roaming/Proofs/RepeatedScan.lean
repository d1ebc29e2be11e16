import Roaming.Proofs.Answers
import Roaming.Proofs.LatencyHistory
import Roaming.Proofs.Room

/-!
# A scan taken twice

A registry learns nothing from the same scan a second time: all that may change is the latency of
what was measured again (`repeated_scan_only_smooths`). The difficulty is in the eviction. A scan
may list more access points than the limits allow; what was dropped after the first time is then
inserted the second time, and has to be dropped once more.

The idea is that a scan alone settles which of its own access points stay (`HasRoomFor`,
`Dated.isSome_get?_absorb_iff`). All that is older goes before them. So the older ones count on both
sides of the comparison that decides who stays (`Store.mem_trim_iff_countP`), and cancel out
(`Dated.countP_goesBefore`): however many there are, an idle access point of the scan stays exactly
if the scan fits the limit without the idle ones that go before it.
-/

namespace Roaming

namespace Observation

variable {rows : List Observation} {row : Observation} {bssid : String}

/-- Whether an access point is idle in its last row. -/
def endsIdle (rows : List Observation) (bssid : String) : Bool :=
  (lastRow? rows bssid).any (!·.inUse)

theorem endsIdle_of_lastRow? (h : lastRow? rows bssid = some row) :
    endsIdle rows bssid = !row.inUse := by
  rw [endsIdle, h]
  rfl

/-- The number of access points that end idle and have a lesser BSSID. -/
def idleBelow (rows : List Observation) (bssid : String) : Nat :=
  (rows.map (·.bssid)).dedup.countP fun other => decide (other < bssid) && endsIdle rows other

/-- A scan has room for one of its own access points: absence is forgiven, and the access point ends
in use or the scan fits the limit without the idle ones that go before it. -/
def HasRoomFor (limits : Limits) (rows : List Observation) (bssid : String) : Prop :=
  0 < limits.staleAfterScans.toNat
    ∧ (endsIdle rows bssid = false
      ∨ distinct rows ≤ limits.maxEntries.toNat + idleBelow rows bssid)

end Observation

namespace Registry

open AccessPoint Observation

/-! ## What a scan keeps of its own -/

section OneScan

variable {r : Registry} {gs : List Sighting} {a : AccessPoint} {bssid : String}

/-- Before an access point of the scan goes all that is older, and what ends idle in the scan with a
lesser BSSID. -/
theorem Dated.countP_goesBefore (h : r.Dated) (gs : List Sighting)
    (hstale : 0 < r.limits.staleAfterScans.toNat) (hseen : a.lastSeen = r.scans + 1) :
    let scan := r.scans + 1
    let rows := gs.map (·.row)
    let fresh := (r.store.sightAll scan gs).dropStale r.limits scan
    let older := (fresh.toList.filter fun b => !(b.lastSeen == scan)).length
    fresh.size = distinct rows + older
      ∧ (fresh.idle scan).countP (·.goesBefore a) = idleBelow rows a.bssid + older := by
  intro scan rows fresh older
  have hfresh : fresh.toList.filter (·.lastSeen == scan)
      = (r.store.sightAll scan gs).toList.filter (·.lastSeen == scan) := by
    show ((r.store.sightAll scan gs).toList.filter _).filter _ = _
    rw [List.filter_filter]
    refine List.filter_congr fun b _ => ?_
    cases hb : b.lastSeen == scan with
    | false => rfl
    | true =>
        rw [isStale_eq_false_of_seen hstale (beq_iff_eq.1 hb)]
        rfl
  have hperm : ((fresh.toList.filter (·.lastSeen == scan)).map (·.bssid)).Perm
      (rows.map (·.bssid)).dedup := by
    rw [hfresh]
    exact h.perm_seen
  constructor
  · rw [Store.size, List.length_eq_length_filter_add (·.lastSeen == scan),
      ← List.length_map (·.bssid), hperm.length_eq, distinct]
  · rw [Store.idle, List.countP_filter,
      List.countP_eq_countP_filter_add _ _ (·.lastSeen == scan)]
    congr 1
    · -- of the scan itself the lesser BSSIDs go before
      rw [idleBelow, ← hperm.countP_eq, List.countP_map]
      refine List.countP_congr fun b hb => ?_
      obtain ⟨hmem, hdate⟩ := List.mem_filter.1 hb
      rw [beq_iff_eq] at hdate
      obtain ⟨row, hlast, hmirrors⟩ := h.mirrors_of_seen (Store.mem_dropStale_iff.1 hmem).1 hdate
      rw [Function.comp_apply, endsIdle_of_lastRow? hlast, ← hmirrors.inUse, isLive, hdate,
        goesBefore, hdate, hseen]
      simp [scan]
    · -- all that is older goes before
      refine List.countP_eq_length.2 fun b hb => ?_
      obtain ⟨hmem, hdate⟩ := List.mem_filter.1 hb
      have hle := h.lastSeen_sightAll_le (Store.mem_dropStale_iff.1 hmem).1
      rw [Bool.not_eq_true', beq_eq_false_iff_ne] at hdate
      have hlt : b.lastSeen < a.lastSeen := by omega
      rw [goesBefore_iff.2 (.inl hlt), isLive, beq_false_of_ne hdate, Bool.and_false]
      rfl

/-- **A scan settles what stays of it**: whatever was stored before, an access point that the scan
lists is stored after it exactly if the scan has room for it. -/
theorem Dated.isSome_get?_absorb_iff (h : r.Dated)
    (hlisted : ∃ row ∈ gs.map (·.row), row.bssid = bssid) :
    ((r.absorb gs).registry.get? bssid).isSome = true ↔
      HasRoomFor r.limits (gs.map (·.row)) bssid := by
  obtain ⟨row, hrow, rfl⟩ := hlisted
  obtain ⟨last, hlast⟩ := exists_lastRow? hrow
  have hmerged : ∃ a, (r.store.sightAll (r.scans + 1) gs).get? row.bssid = some a
      ∧ a.Mirrors last ∧ a.lastSeen = r.scans + 1 := Store.get?_sightAll_of_lastRow?_eq_some hlast
  obtain ⟨a, hget, hmirrors, hseen⟩ := hmerged
  obtain ⟨hmem, hbssid⟩ := Store.get?_eq_some_iff.1 hget
  have hkept : ((r.absorb gs).registry.get? row.bssid).isSome = true ↔
      a ∈ (r.absorb gs).registry.store.toList := by
    rw [Option.isSome_iff_exists]
    constructor
    · rintro ⟨b, hb⟩
      obtain rfl := Option.some.inj (hget.symm.trans (Store.get?_of_get?_evict hb))
      exact (Store.get?_eq_some_iff.1 hb).1
    · intro ha
      exact ⟨a, Store.get?_eq_some_iff.2 ⟨ha, hbssid⟩⟩
  rw [hkept, HasRoomFor, endsIdle_of_lastRow? hlast, ← hmirrors.inUse, ← hbssid]
  show a ∈ (((r.store.sightAll (r.scans + 1) gs).dropStale _ _).trim _ _).toList ↔ _
  rw [Store.mem_trim_iff_countP, Store.mem_dropStale_iff, and_iff_right hmem]
  by_cases hstale : 0 < r.limits.staleAfterScans.toNat
  · obtain ⟨hsize, hcount⟩ := h.countP_goesBefore gs hstale hseen
    rw [hsize, hcount, isStale_eq_false_of_seen hstale hseen, isLive, hseen, beq_self_eq_true,
      Bool.and_true, Bool.not_eq_false']
    refine and_congr (iff_of_true rfl hstale) (or_congr_right ?_)
    omega
  · refine iff_of_false (fun hfresh => ?_) (fun hroom => hstale hroom.1)
    have hnot : a.isStale r.limits (r.scans + 1) = true := by
      rw [isStale, decide_eq_true_eq]
      omega
    exact Bool.false_ne_true (hfresh.1.symm.trans hnot)

end OneScan

/-! ## The same scan again -/

section Again

variable {r : Registry} {gs gs' : List Sighting} {a b : AccessPoint} {bssid : String}

/-- The current access points after a scan are those that it lists and that are stored under the
target network. -/
theorem Dated.mem_current_absorb_iff (h : r.Dated) :
    a ∈ (r.absorb gs).registry.current ↔ a ∈ (r.absorb gs).registry.store.toList
      ∧ (∃ row ∈ gs.map (·.row), row.bssid = a.bssid)
      ∧ (r.absorb gs).registry.target = some a.ssid := by
  rw [mem_current_iff]
  refine and_congr_right fun ha => and_congr_left' ?_
  exact h.lastSeen_eq_iff (Store.mem_of_mem_evict ha)

/-- What the same scan leaves the second time was there after the first time, and nothing of it has
changed but the date and the latency. -/
theorem Dated.exists_once (h : r.Dated) (hrows : gs'.map (·.row) = gs.map (·.row))
    (hb : ((r.absorb gs).registry.absorb gs').registry.get? bssid = some b) :
    ∃ a, (r.absorb gs).registry.get? bssid = some a ∧ b.toObservation = a.toObservation := by
  have hmerged := Store.get?_of_get?_evict hb
  cases hlast : lastRow? (gs'.map (·.row)) bssid with
  | none =>
      rw [Store.get?_sightAll_of_lastRow?_eq_none hlast] at hmerged
      exact ⟨b, hmerged, rfl⟩
  | some row =>
      have hlisted : ∃ row ∈ gs'.map (·.row), row.bssid = bssid := ⟨row, lastRow?_mem hlast⟩
      -- the scan has room for the access point, so it was stored after the first time
      have hroom := (h.absorb.isSome_get?_absorb_iff hlisted).1 (Option.isSome_of_eq_some hb)
      obtain ⟨hb', -⟩ := Store.mirrors_of_get?_sightAll hmerged hlast
      rw [hrows] at hlisted hroom hlast
      obtain ⟨a, ha⟩ := Option.isSome_iff_exists.1 ((h.isSome_get?_absorb_iff hlisted).2 hroom)
      obtain ⟨ha', -⟩ := Store.mirrors_of_get?_sightAll (Store.get?_of_get?_evict ha) hlast
      exact ⟨a, ha, hb'.toObservation_congr ha' (Store.ssid_sightAll_of_known ha hmerged)⟩

/-- What the scan lists and left the first time is there after the second time. -/
theorem Dated.exists_twice (h : r.Dated) (hrows : gs'.map (·.row) = gs.map (·.row))
    (hlisted : ∃ row ∈ gs.map (·.row), row.bssid = bssid)
    (ha : (r.absorb gs).registry.get? bssid = some a) :
    ∃ b, ((r.absorb gs).registry.absorb gs').registry.get? bssid = some b
      ∧ b.toObservation = a.toObservation := by
  have hroom := (h.isSome_get?_absorb_iff hlisted).1 (Option.isSome_of_eq_some ha)
  rw [← hrows] at hlisted hroom
  obtain ⟨b, hb⟩ :=
    Option.isSome_iff_exists.1 ((h.absorb.isSome_get?_absorb_iff hlisted).2 hroom)
  obtain ⟨a', ha', hsame⟩ := h.exists_once hrows hb
  obtain rfl := Option.some.inj (ha.symm.trans ha')
  exact ⟨b, hb, hsame⟩

/-- The same scan has no other network to learn the second time. -/
theorem target_absorb_again (r : Registry) (hrows : gs'.map (·.row) = gs.map (·.row)) :
    ((r.absorb gs).registry.absorb gs').registry.target = (r.absorb gs).registry.target := by
  show (r.absorbAll [gs, gs']).target = (r.absorbAll [gs]).target
  rw [target_absorbAll, target_absorbAll]
  have hflat : (rowsOf [gs, gs']).flatten = gs.map (·.row) ++ gs.map (·.row) := by
    simp [rowsOf, hrows]
  rw [hflat, firstInUse?, firstInUse?, List.find?_append, Option.or_self]
  simp [rowsOf]

/-- The second time the current access points are those of the first time, apart from dates and
latencies. -/
theorem Dated.current_again (h : r.Dated) (hrows : gs'.map (·.row) = gs.map (·.row)) :
    ((r.absorb gs).registry.absorb gs').registry.current.map (·.toObservation)
      = (r.absorb gs).registry.current.map (·.toObservation) := by
  refine eq_of_ascending (·.bssid) (List.pairwise_map.2 (pairwise_current _))
    (List.pairwise_map.2 (pairwise_current _)) fun o => ?_
  constructor
  · intro ho
    obtain ⟨b, hb, rfl⟩ := List.mem_map.1 ho
    obtain ⟨hmem, hlisted, htarget⟩ := h.absorb.mem_current_absorb_iff.1 hb
    obtain ⟨a, ha, hsame⟩ := h.exists_once hrows (Store.get?_bssid hmem)
    obtain ⟨hstored, hbssid⟩ := Store.get?_eq_some_iff.1 ha
    rw [hrows, ← hbssid] at hlisted
    rw [target_absorb_again r hrows, show b.ssid = a.ssid from congrArg (·.ssid) hsame] at htarget
    rw [hsame]
    exact List.mem_map_of_mem (h.mem_current_absorb_iff.2 ⟨hstored, hlisted, htarget⟩)
  · intro ho
    obtain ⟨a, ha, rfl⟩ := List.mem_map.1 ho
    obtain ⟨hmem, hlisted, htarget⟩ := h.mem_current_absorb_iff.1 ha
    obtain ⟨b, hb, hsame⟩ := h.exists_twice hrows hlisted (Store.get?_bssid hmem)
    obtain ⟨hstored, hbssid⟩ := Store.get?_eq_some_iff.1 hb
    rw [← hrows, ← hbssid] at hlisted
    rw [← target_absorb_again r hrows, ← show b.ssid = a.ssid from congrArg (·.ssid) hsame]
      at htarget
    rw [← hsame]
    exact List.mem_map_of_mem (h.absorb.mem_current_absorb_iff.2 ⟨hstored, hlisted, htarget⟩)

end Again

/-- **The same scan again only smooths latencies**: after any scans and with any limits, let a scan
be merged twice, with any measurements. What is stored the second time was stored the first time,
and is the same but for its date and its latency, and the latency too unless a row of the scan has
it in use. What was stored only the first time is not listed in the scan. The network to roam
within, the active link (or the failure) and the candidates are the same, apart from dates and
latencies. -/
theorem repeated_scan_only_smooths {σ : Type} (measure : Action σ Float) (limits : Limits)
    (earlier : List (List Observation)) (rows : List Observation) (s s' s'' : σ) :
    let r := ((empty limits).refreshAll measure earlier s).value
    let once := (r.refresh measure rows s').value.registry
    let twice := (once.refresh measure rows s'').value.registry
    (∀ bssid b, twice.get? bssid = some b →
        ∃ a, once.get? bssid = some a ∧ b.toObservation = a.toObservation
          ∧ ((∀ row ∈ rows, row.bssid = bssid → row.inUse = false) → b.latency = a.latency))
      ∧ (∀ bssid, (once.get? bssid).isSome = true → twice.get? bssid = none →
        ∀ row ∈ rows, row.bssid ≠ bssid)
      ∧ twice.target = once.target
      ∧ twice.active.map (·.toObservation) = once.active.map (·.toObservation)
      ∧ twice.candidates.map (·.toObservation) = once.candidates.map (·.toObservation) := by
  intro r once twice
  have hdated : r.Dated := dated_refreshAll measure limits earlier s
  -- the sightings of the two times have the same rows
  obtain ⟨gs, hgs, hrefresh⟩ := exists_refresh_eq_absorb measure r rows s'
  obtain ⟨gs', hgs', hrefresh'⟩ := exists_refresh_eq_absorb measure once rows s''
  have hrows : gs'.map (·.row) = gs.map (·.row) := hgs'.trans hgs.symm
  have honce : once = (r.absorb gs).registry := congrArg (·.registry) hrefresh
  have htwice : twice = ((r.absorb gs).registry.absorb gs').registry := by
    rw [← honce]
    exact congrArg (·.registry) hrefresh'
  have htarget : twice.target = once.target := by
    rw [htwice, honce]
    exact target_absorb_again r hrows
  have hcurrent : twice.current.map (·.toObservation) = once.current.map (·.toObservation) := by
    rw [htwice, honce]
    exact hdated.current_again hrows
  refine ⟨?_, ?_, htarget, ?_, ?_⟩
  · intro bssid b hb
    rw [htwice] at hb
    obtain ⟨a, ha, hsame⟩ := hdated.exists_once hrows hb
    rw [honce]
    refine ⟨a, ha, hsame, fun hidle => ?_⟩
    rw [← hgs'] at hidle
    rw [latency_absorb hb, ha, Sighting.samplesOf_eq_nil_iff.2 hidle]
    rfl
  · intro bssid honceStored hgone row hrow hbssid
    obtain ⟨a, ha⟩ := Option.isSome_iff_exists.1 honceStored
    rw [honce] at ha
    rw [← hgs] at hrow
    obtain ⟨b, hb, -⟩ := hdated.exists_twice hrows ⟨row, hrow, hbssid⟩ ha
    rw [htwice, hb] at hgone
    exact nomatch hgone
  · rw [active_map_toObservation, active_map_toObservation, hcurrent, htarget]
  · rw [candidates_map_toObservation, candidates_map_toObservation, hcurrent]

/-- Room for two access points: of a scan with three the same one is dropped each time. -/
example :
    let rows : List Observation :=
      [⟨true, "AA", "home", 50, 100⟩, ⟨false, "CC", "home", 60, 100⟩,
        ⟨false, "BB", "home", 70, 100⟩]
    let after := fun scans : List (List Observation) =>
      ((empty { maxEntries := 2, staleAfterScans := 3 }).refreshAll
        (pure 20.0 : Action Unit Float) scans ()).value
    (after [rows]).store.toList.map (·.bssid) = ["AA", "CC"]
      ∧ (after [rows, rows]).store.toList.map (·.bssid) = ["AA", "CC"] := by
  decide +kernel

end Registry

end Roaming
