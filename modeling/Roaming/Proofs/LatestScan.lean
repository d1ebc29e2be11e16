import Mathlib.Data.List.Dedup
import Mathlib.Data.List.Induction
import Mathlib.Data.List.Sort
import Roaming.Proofs.Eviction
import Roaming.Proofs.Sighting

/-!
# The registry answers from the latest scan

A registry remembers many scans, yet what it answers depends on the latest one alone, and on the
network it roams within. Two facts carry this. An access point that counts as current was listed by
the latest scan, because no stored access point is dated later than the scans so far
(`Registry.Dated`), so it mirrors its last row in that scan (`mirrors_of_seen`). And an access point
that the latest scan lists is still stored after the eviction, because older ones go first
(`stored_of_lastRow?`).

Both are carried from scan to scan by sightings: refreshing with the scans of a history is taking
their sightings and absorbing those (`refreshAll_eq_absorbAll`), and of the sightings of a history
the network to roam within is that of the first row in use (`target_absorbAll`). What is stored was
inserted by one of the scans and has been stored ever since (`exists_insertion`).
-/

namespace Roaming

/-- An access point as an observation. -/
def AccessPoint.toObservation (a : AccessPoint) : Observation where
  inUse := a.inUse
  bssid := a.bssid
  ssid := a.ssid
  quality := a.quality
  rate := a.rate

theorem AccessPoint.Mirrors.toObservation_eq {a : AccessPoint} {row : Observation}
    (h : a.Mirrors row) (hssid : a.ssid = row.ssid) : a.toObservation = row := by
  obtain ⟨hbssid, hquality, hrate, hinUse⟩ := h
  rw [AccessPoint.toObservation, hbssid, hssid, hquality, hrate, hinUse]

/-- Two access points that mirror the same row differ at most in their networks. -/
theorem AccessPoint.Mirrors.toObservation_congr {a b : AccessPoint} {row : Observation}
    (ha : a.Mirrors row) (hb : b.Mirrors row) (hssid : a.ssid = b.ssid) :
    a.toObservation = b.toObservation := by
  rw [AccessPoint.toObservation, AccessPoint.toObservation, ha.bssid, hssid, ha.quality, ha.rate,
    ha.inUse, hb.bssid, hb.quality, hb.rate, hb.inUse]

/-- The number of access points that rows tell of. -/
def Observation.distinct (rows : List Observation) : Nat :=
  (rows.map (·.bssid)).dedup.length

namespace Registry

/-! ## One scan -/

section OneScan

variable {r : Registry} {gs : List Sighting} {a : AccessPoint} {row : Observation} {bssid : String}

/-- No access point is dated later than the scans so far. -/
def Dated (r : Registry) : Prop :=
  ∀ a ∈ r.store.toList, a.lastSeen ≤ r.scans

theorem dated_empty (limits : Limits) : (empty limits).Dated := by
  intro a ha
  exact nomatch ha

/-- After a merge an access point either is as it was, or mirrors its last row. -/
theorem sightAll_cases {scan : Nat} (ha : a ∈ (r.store.sightAll scan gs).toList) :
    a ∈ r.store.toList ∨
      ∃ row, Observation.lastRow? (gs.map (·.row)) a.bssid = some row ∧ a.Mirrors row
        ∧ a.lastSeen = scan := by
  have hget := Store.get?_bssid ha
  cases hlast : Observation.lastRow? (gs.map (·.row)) a.bssid with
  | none =>
      rw [Store.get?_sightAll_of_lastRow?_eq_none hlast] at hget
      exact .inl (Store.get?_eq_some_iff.1 hget).1
  | some row =>
      exact .inr ⟨row, rfl, Store.mirrors_of_get?_sightAll hget hlast⟩

theorem Dated.lastSeen_sightAll_le (h : r.Dated)
    (ha : a ∈ (r.store.sightAll (r.scans + 1) gs).toList) : a.lastSeen ≤ r.scans + 1 := by
  rcases sightAll_cases ha with hold | ⟨_, -, -, hseen⟩
  · exact Nat.le_succ_of_le (h a hold)
  · exact Nat.le_of_eq hseen

theorem Dated.absorb (h : r.Dated) : (r.absorb gs).registry.Dated := by
  intro a ha
  exact h.lastSeen_sightAll_le (Store.mem_of_mem_evict ha)

/-- An access point dated with the latest scan mirrors its last row in that scan. -/
theorem Dated.mirrors_of_seen (h : r.Dated)
    (ha : a ∈ (r.store.sightAll (r.scans + 1) gs).toList) (hseen : a.lastSeen = r.scans + 1) :
    ∃ row, Observation.lastRow? (gs.map (·.row)) a.bssid = some row ∧ a.Mirrors row := by
  rcases sightAll_cases ha with hold | ⟨row, hlast, hmirrors, -⟩
  · -- what the scan left alone is dated with an earlier one
    have hle := h a hold
    omega
  · exact ⟨row, hlast, hmirrors⟩

/-- What is stored after a scan keeps its network, or it has that of its first row. -/
theorem ssid_absorb_cases (h : (r.absorb gs).registry.get? bssid = some a) :
    (∃ b, r.get? bssid = some b ∧ a.ssid = b.ssid) ∨
      (r.get? bssid = none ∧ ∃ first,
        Observation.firstRow? (gs.map (·.row)) bssid = some first ∧ a.ssid = first.ssid) := by
  have hmerged := Store.get?_of_get?_evict h
  cases hold : r.store.get? bssid with
  | none => exact .inr ⟨hold, Store.ssid_sightAll_of_new hold hmerged⟩
  | some b => exact .inl ⟨b, hold, Store.ssid_sightAll_of_known hold hmerged⟩

/-- An access point is dated with the scan just merged exactly if the scan lists it. -/
theorem Dated.lastSeen_eq_iff (h : r.Dated)
    (ha : a ∈ (r.store.sightAll (r.scans + 1) gs).toList) :
    a.lastSeen = r.scans + 1 ↔ ∃ row ∈ gs.map (·.row), row.bssid = a.bssid := by
  constructor
  · intro hseen
    obtain ⟨row, hlast, hmirrors⟩ := h.mirrors_of_seen ha hseen
    exact ⟨row, Observation.lastRow?_mem hlast⟩
  · rintro ⟨row, hrow, hbssid⟩
    obtain ⟨last, hlast⟩ := Observation.exists_lastRow? hrow
    rw [hbssid] at hlast
    exact (Store.mirrors_of_get?_sightAll (Store.get?_bssid ha) hlast).2

/-- What a merge dates with its scan are the access points that the scan lists. -/
theorem Dated.perm_seen (h : r.Dated) :
    (((r.store.sightAll (r.scans + 1) gs).toList.filter (·.lastSeen == r.scans + 1)).map
      (·.bssid)).Perm ((gs.map (·.row)).map (·.bssid)).dedup := by
  have hnodup : (((r.store.sightAll (r.scans + 1) gs).toList.filter
      (·.lastSeen == r.scans + 1)).map (·.bssid)).Nodup :=
    (Store.nodup_bssids _).sublist (List.filter_sublist.map _)
  refine (List.perm_ext_iff_of_nodup hnodup (List.nodup_dedup _)).2 fun bssid => ?_
  rw [List.mem_dedup]
  constructor
  · intro hb
    obtain ⟨a, ha, rfl⟩ := List.mem_map.1 hb
    obtain ⟨hmem, hseen⟩ := List.mem_filter.1 ha
    exact List.mem_map.2 ((h.lastSeen_eq_iff hmem).1 (beq_iff_eq.1 hseen))
  · intro hb
    obtain ⟨row, hrow, rfl⟩ := List.mem_map.1 hb
    obtain ⟨last, hlast⟩ := Observation.exists_lastRow? hrow
    have hmerged : ∃ a, (r.store.sightAll (r.scans + 1) gs).get? row.bssid = some a
        ∧ a.Mirrors last ∧ a.lastSeen = r.scans + 1 :=
      Store.get?_sightAll_of_lastRow?_eq_some hlast
    obtain ⟨a, ha, -, hseen⟩ := hmerged
    obtain ⟨hmem, hbssid⟩ := Store.get?_eq_some_iff.1 ha
    exact List.mem_map.2 ⟨a, List.mem_filter.2 ⟨hmem, beq_iff_eq.2 hseen⟩, hbssid⟩

/-- A merge dates as many access points with its scan as the scan tells of. -/
theorem Dated.seenIn_sightAll (h : r.Dated) :
    (r.store.sightAll (r.scans + 1) gs).seenIn (r.scans + 1)
      = Observation.distinct (gs.map (·.row)) := by
  rw [Store.seenIn, List.countP_eq_length_filter, ← List.length_map (·.bssid),
    h.perm_seen.length_eq, Observation.distinct]

/-- What the latest scan lists is stored after it, as its last row says. -/
theorem Dated.stored_of_lastRow? (h : r.Dated) (hstale : 0 < r.limits.staleAfterScans.toNat)
    (hroom : Observation.distinct (gs.map (·.row)) ≤ r.limits.maxEntries.toNat)
    (hlast : Observation.lastRow? (gs.map (·.row)) bssid = some row) :
    ∃ a ∈ (r.absorb gs).registry.store.toList, a.Mirrors row ∧ a.lastSeen = r.scans + 1 := by
  have hmerged : ∃ a, (r.store.sightAll (r.scans + 1) gs).get? bssid = some a ∧ a.Mirrors row
      ∧ a.lastSeen = r.scans + 1 := Store.get?_sightAll_of_lastRow?_eq_some hlast
  obtain ⟨a, hget, hmirrors, hseen⟩ := hmerged
  refine ⟨a, ?_, hmirrors, hseen⟩
  exact Store.mem_evict_of_seen hstale (fun b hb => h.lastSeen_sightAll_le hb)
    (Nat.le_trans (Nat.le_of_eq h.seenIn_sightAll) hroom) (Store.get?_eq_some_iff.1 hget).1 hseen

theorem mem_current_iff :
    a ∈ r.current ↔ a ∈ r.store.toList ∧ a.lastSeen = r.scans ∧ r.target = some a.ssid := by
  rw [current, List.mem_filter, isCurrent, Bool.and_eq_true, beq_iff_eq, beq_iff_eq]

theorem mem_candidates_iff : a ∈ r.candidates ↔ a ∈ r.current ∧ a.inUse = false := by
  rw [candidates, List.mem_filter, Bool.not_eq_true']

theorem active_eq_ok_iff : r.active = .ok a ↔ r.current.find? (·.inUse) = some a := by
  rw [active]
  cases r.current.find? (·.inUse) <;> simp

theorem active_eq_error_iff {failure : Failure} :
    r.active = .error failure ↔
      r.current.find? (·.inUse) = none ∧ failure = .notConnected r.target := by
  rw [active]
  cases r.current.find? (·.inUse) <;> simp [eq_comm]

/-- The active link is current and in use. -/
theorem current_of_active (h : r.active = .ok a) : a ∈ r.current ∧ a.inUse = true := by
  have hfind := active_eq_ok_iff.1 h
  exact ⟨List.mem_of_find?_eq_some hfind, List.find?_some hfind⟩

/-- A current access point mirrors its last row in the latest scan. -/
theorem Dated.mirrors_of_current (h : r.Dated) (ha : a ∈ (r.absorb gs).registry.current) :
    ∃ row, Observation.lastRow? (gs.map (·.row)) a.bssid = some row ∧ a.Mirrors row := by
  obtain ⟨hmem, hseen, -⟩ := mem_current_iff.1 ha
  exact h.mirrors_of_seen (Store.mem_of_mem_evict hmem) hseen

end OneScan

/-! ## Histories of scans -/

section Histories

variable {m : Type → Type} [Monad m]

/-- Refreshes with the scans of a history, one after another. -/
def refreshAll (measure : m Float) (r : Registry) : List (List Observation) → m Registry
  | [] => pure r
  | rows :: scans => do
    let refreshed ← r.refresh measure rows
    refreshAll measure refreshed.registry scans

/-- Absorbs the sightings of the scans of a history, one after another. -/
def absorbAll (r : Registry) (history : List (List Sighting)) : Registry :=
  history.foldl (fun r gs => (r.absorb gs).registry) r

/-- The rows of the scans of a history. -/
def rowsOf (history : List (List Sighting)) : List (List Observation) :=
  history.map fun gs => gs.map (·.row)

theorem rowsOf_cons (gs : List Sighting) (history : List (List Sighting)) :
    rowsOf (gs :: history) = gs.map (·.row) :: rowsOf history :=
  rfl

theorem rowsOf_append (history later : List (List Sighting)) :
    rowsOf (history ++ later) = rowsOf history ++ rowsOf later :=
  List.map_append

/-- Takes the sightings of the scans of a history, one scan after another. -/
def takeScans (measure : m Float) (scans : List (List Observation)) : m (List (List Sighting)) :=
  scans.mapM (Sighting.takeAll measure)

section Actions

variable {σ : Type} (measure : Action σ Float)

theorem takeScans_cons (rows : List Observation) (scans : List (List Observation)) (s : σ) :
    takeScans measure (rows :: scans) s =
      let gs := Sighting.takeAll measure rows s
      let history := takeScans measure scans gs.state
      ⟨gs.value :: history.value, gs.events ++ history.events, history.state⟩ := by
  rw [takeScans, List.mapM_cons, Action.bind_apply, Action.bind_apply, Action.pure_apply,
    List.append_nil]
  rfl

/-- Refreshing with the scans of a history is taking their sightings and then absorbing those. -/
theorem refreshAll_eq_absorbAll (r : Registry) (scans : List (List Observation)) (s : σ) :
    r.refreshAll measure scans s =
      ⟨r.absorbAll (takeScans measure scans s).value, (takeScans measure scans s).events,
        (takeScans measure scans s).state⟩ := by
  induction scans generalizing r s with
  | nil => rfl
  | cons rows scans ih =>
      rw [refreshAll, Action.bind_apply, refresh_eq_absorb, ih, takeScans_cons]
      rfl

theorem rowsOf_takeScans (scans : List (List Observation)) (s : σ) :
    rowsOf (takeScans measure scans s).value = scans := by
  induction scans generalizing s with
  | nil => rfl
  | cons rows scans ih =>
      rw [takeScans_cons]
      rw [rowsOf_cons, Sighting.rows_takeAll]
      exact congrArg _ (ih _)

theorem takeScans_append (scans later : List (List Observation)) (s : σ) :
    (takeScans measure (scans ++ later) s).value = (takeScans measure scans s).value
      ++ (takeScans measure later (takeScans measure scans s).state).value := by
  rw [takeScans, List.mapM_append]
  rfl

/-- The sightings of earlier scans do not depend on later ones. -/
theorem takeScans_of_append {scans : List (List Observation)} {s : σ}
    {before later : List (List Sighting)}
    (h : (takeScans measure scans s).value = before ++ later) :
    (takeScans measure (rowsOf before) s).value = before := by
  have hscans : scans = rowsOf before ++ rowsOf later := by
    rw [← rowsOf_append, ← h, rowsOf_takeScans]
  rw [hscans, takeScans_append] at h
  refine List.append_inj_left h ?_
  rw [← List.length_map (fun gs : List Sighting => gs.map (·.row))]
  show (rowsOf _).length = _
  rw [rowsOf_takeScans]
  exact List.length_map _

/-- Refreshing with the first scans is absorbing the sightings taken in them. -/
theorem value_refreshAll_of_append (r : Registry) {scans : List (List Observation)} {s : σ}
    {before later : List (List Sighting)}
    (h : (takeScans measure scans s).value = before ++ later) :
    (r.refreshAll measure (rowsOf before) s).value = r.absorbAll before := by
  rw [refreshAll_eq_absorbAll, takeScans_of_append measure h]

/-- Whatever the measurements give, refreshing is absorbing sightings with the rows of the scans. -/
theorem exists_refreshAll_eq_absorbAll (r : Registry) (scans : List (List Observation)) (s : σ) :
    ∃ history, rowsOf history = scans
      ∧ (r.refreshAll measure scans s).value = r.absorbAll history := by
  refine ⟨_, rowsOf_takeScans measure scans s, ?_⟩
  rw [refreshAll_eq_absorbAll]

end Actions

variable {r : Registry} {history later : List (List Sighting)} {gs : List Sighting}

theorem absorbAll_append (r : Registry) (history later : List (List Sighting)) :
    r.absorbAll (history ++ later) = (r.absorbAll history).absorbAll later :=
  List.foldl_append

theorem Dated.absorbAll (h : r.Dated) : (r.absorbAll history).Dated := by
  induction history generalizing r with
  | nil => exact h
  | cons gs history ih => exact ih h.absorb

theorem dated_refreshAll {σ : Type} (measure : Action σ Float) (limits : Limits)
    (scans : List (List Observation)) (s : σ) :
    ((empty limits).refreshAll measure scans s).value.Dated := by
  rw [refreshAll_eq_absorbAll]
  exact (dated_empty limits).absorbAll

/-- Refreshing with a history of scans ends with absorbing sightings of its last one. -/
theorem exists_refreshAll_eq_absorb {σ : Type} (measure : Action σ Float) (limits : Limits)
    (earlier : List (List Observation)) (latest : List Observation) (s : σ) :
    ∃ (history : List (List Sighting)) (gs : List Sighting),
      rowsOf history = earlier ∧ gs.map (·.row) = latest
        ∧ ((empty limits).refreshAll measure (earlier ++ [latest]) s).value
          = (empty limits).absorbAll (history ++ [gs]) := by
  obtain ⟨history, hrows, hvalue⟩ :=
    exists_refreshAll_eq_absorbAll measure (empty limits) (earlier ++ [latest]) s
  obtain ⟨before, last, rfl, hbefore, hlast⟩ := List.map_eq_append_iff.1 hrows
  obtain ⟨gs, rfl, hgs⟩ := List.map_eq_singleton_iff.1 hlast
  exact ⟨before, gs, hbefore, hgs, hvalue⟩

theorem limits_absorbAll : (r.absorbAll history).limits = r.limits := by
  induction history generalizing r with
  | nil => rfl
  | cons gs history ih => exact ih

/-- What is stored was inserted by some scan of the history, and has been stored ever since. So it
has every property that a scan gives to what it inserts and that later scans carry on. -/
theorem exists_insertion {limits : Limits} {bssid : String} {a : AccessPoint}
    {P : List (List Sighting) → AccessPoint → Prop}
    (hnew : ∀ (r : Registry) gs a, r.get? bssid = none →
      (r.absorb gs).registry.get? bssid = some a → P [gs] a)
    (hknown : ∀ (r : Registry) since gs b a, r.get? bssid = some b → P since b →
      (r.absorb gs).registry.get? bssid = some a → P (since ++ [gs]) a)
    (h : ((empty limits).absorbAll history).get? bssid = some a) :
    ∃ before first later, history = before ++ first :: later
      ∧ ((empty limits).absorbAll before).get? bssid = none
      ∧ (∀ middle, middle <+: later →
        (((empty limits).absorbAll (before ++ first :: middle)).get? bssid).isSome = true)
      ∧ P (first :: later) a := by
  induction history using List.reverseRecOn generalizing a with
  | nil => exact nomatch h
  | append_singleton history gs ih =>
      have hstep : (empty limits).absorbAll (history ++ [gs])
          = (((empty limits).absorbAll history).absorb gs).registry := absorbAll_append _ _ _
      have hstored : (((empty limits).absorbAll (history ++ [gs])).get? bssid).isSome = true := by
        rw [h]
        rfl
      rw [hstep] at h
      cases hold : ((empty limits).absorbAll history).get? bssid with
      | none =>
          -- the scan inserted it
          refine ⟨history, gs, [], rfl, hold, ?_, hnew _ gs a hold h⟩
          intro middle hmiddle
          rw [List.prefix_nil.1 hmiddle]
          exact hstored
      | some b =>
          -- an earlier scan did, and this one found it stored
          obtain ⟨before, first, later, rfl, hnone, hsome, hb⟩ := ih hold
          refine ⟨before, first, later ++ [gs], ?_, hnone, ?_, hknown _ _ gs b a hold hb h⟩
          · rw [List.append_assoc, List.cons_append]
          · intro middle hmiddle
            rcases List.prefix_concat_iff.1 hmiddle with rfl | hearlier
            · rw [← List.cons_append, ← List.append_assoc]
              exact hstored
            · exact hsome middle hearlier

/-- The network of the first row in use. -/
def firstInUse? (rows : List Observation) : Option String :=
  (rows.find? (·.inUse)).map (·.ssid)

/-- The network to roam within is that of the first row in use that was ever listed. -/
theorem target_absorbAll :
    (r.absorbAll history).target = (r.target <|> firstInUse? (rowsOf history).flatten) := by
  induction history generalizing r with
  | nil => cases h : r.target <;> simp [Registry.absorbAll, rowsOf, firstInUse?, h]
  | cons gs history ih =>
      have hcons : r.absorbAll (gs :: history) = (r.absorb gs).registry.absorbAll history := rfl
      have htarget : (r.absorb gs).registry.target
          = (r.target <|> r.learns? (gs.map (·.row))) := rfl
      rw [hcons, ih, htarget, rowsOf_cons, List.flatten_cons]
      cases h : r.target with
      | some ssid => rfl
      | none =>
          rw [learns?, h, firstInUse?, firstInUse?, List.find?_append]
          cases (gs.map (·.row)).find? (·.inUse) <;> rfl

theorem target_absorbAll_empty (limits : Limits) (history : List (List Sighting)) :
    ((empty limits).absorbAll history).target = firstInUse? (rowsOf history).flatten := by
  rw [target_absorbAll]
  rfl

theorem target_refreshAll {σ : Type} (measure : Action σ Float) (limits : Limits)
    (scans : List (List Observation)) (s : σ) :
    ((empty limits).refreshAll measure scans s).value.target = firstInUse? scans.flatten := by
  obtain ⟨history, rfl, hvalue⟩ := exists_refreshAll_eq_absorbAll measure (empty limits) scans s
  rw [hvalue, target_absorbAll_empty]

/-- The first row in use that is ever listed makes its network known. -/
theorem firstInUse?_append_of_none {earlier latest : List Observation} {first : Observation}
    (hunknown : firstInUse? earlier = none) (hfirst : latest.find? (·.inUse) = some first) :
    firstInUse? (earlier ++ latest) = some first.ssid := by
  rw [firstInUse?, Option.map_eq_none_iff] at hunknown
  rw [firstInUse?, List.find?_append, hunknown, Option.none_or, hfirst]
  rfl

end Histories

end Registry

end Roaming
