import Mathlib.Data.List.Basic
import Roaming.Host
import Roaming.Proofs.Store
import Roaming.Registry

/-!
# Sightings: a scan with its measurements made

Merging a scan interleaves two things: rows change the store, and rows in use have a latency
measured. The two come apart. A *sighting* is a row together with the sample measured for it, and
merging a scan is taking its sightings first and then merging them without any effect
(`refresh_eq_absorb`), whatever the monad of the measurement.

The effectless merge is described BSSID by BSSID: what a store looks up afterwards is what it looked
up before, changed by the sightings of that BSSID alone (`get?_sightAll`). Hence an access point
that the scan lists has everything but its network and its latency from its last row
(`get?_sightAll_of_lastRow?_eq_some`), and its network from the time it was inserted.
-/

namespace Roaming

/-- A row of a scan with the latency measured for it; a row that is idle is not measured. -/
structure Sighting where
  /-- The row. -/
  row : Observation
  /-- The latency measured for the row. -/
  sample : Option Float
  /-- Exactly the rows in use are measured. -/
  isSome_sample : sample.isSome = row.inUse

namespace AccessPoint

/-- An access point after it was sighted in a scan. -/
def sightedIn (a : AccessPoint) (scan : Nat) (g : Sighting) : AccessPoint :=
  match g.sample with
  | some sample => (a.observedIn scan g.row).withSample sample
  | none => a.observedIn scan g.row

variable (a : AccessPoint) (scan : Nat) (g : Sighting)

@[simp] theorem sightedIn_bssid : (a.sightedIn scan g).bssid = a.bssid := by
  rw [sightedIn]
  split <;> rfl

@[simp] theorem sightedIn_ssid : (a.sightedIn scan g).ssid = a.ssid := by
  rw [sightedIn]
  split <;> rfl

@[simp] theorem sightedIn_quality : (a.sightedIn scan g).quality = g.row.quality := by
  rw [sightedIn]
  split <;> rfl

@[simp] theorem sightedIn_rate : (a.sightedIn scan g).rate = g.row.rate := by
  rw [sightedIn]
  split <;> rfl

@[simp] theorem sightedIn_inUse : (a.sightedIn scan g).inUse = g.row.inUse := by
  rw [sightedIn]
  split <;> rfl

@[simp] theorem sightedIn_lastSeen : (a.sightedIn scan g).lastSeen = scan := by
  rw [sightedIn]
  split <;> rfl

end AccessPoint

/-! ## Effects first -/

namespace Sighting

variable {m : Type → Type} [Monad m] (measure : m Float)

/-- Takes the sighting of a row, measuring its latency if the row is in use. -/
def take (row : Observation) : m Sighting :=
  if h : row.inUse = true then do
    let sample ← measure
    return { row, sample := some sample, isSome_sample := by simp [h] }
  else return { row, sample := none, isSome_sample := by simp [h] }

/-- Takes the sightings of the rows of a scan, in their order. -/
def takeAll (rows : List Observation) : m (List Sighting) :=
  rows.mapM (take measure)

end Sighting

namespace Store

/-- Merges one sighting. -/
def sight (scan : Nat) (s : Store) (g : Sighting) : Store :=
  s.insert (((s.get? g.row.bssid).getD (.ofObservation g.row)).sightedIn scan g)

/-- Merges sightings, in their order. -/
def sightAll (scan : Nat) (s : Store) (gs : List Sighting) : Store :=
  gs.foldl (sight scan) s

end Store

namespace Registry

/-- Merges the sightings of one scan, then drops what is stale or too much. -/
def absorb (r : Registry) (gs : List Sighting) : Refresh :=
  let scan := r.scans + 1
  let merged := r.store.sightAll scan gs
  let fresh := merged.dropStale r.limits scan
  let kept := merged.evict r.limits scan
  { registry :=
      { r with store := kept, target := r.target <|> r.learns? (gs.map (·.row)), scans := scan },
    stale := merged.size - fresh.size
    trimmed := fresh.size - kept.size }

section Effects

variable {m : Type → Type} [Monad m] [LawfulMonad m] (measure : m Float)

/-- Merging a row is taking its sighting and then merging that. -/
theorem mergeRow_eq_sight (scan : Nat) (s : Store) (row : Observation) :
    mergeRow measure scan s row = do
      let g ← Sighting.take measure row
      return s.sight scan g := by
  rw [mergeRow, Sighting.take]
  by_cases h : row.inUse = true
  · rw [if_pos h, dif_pos h, bind_assoc]
    simp only [pure_bind]
    rfl
  · rw [if_neg h, dif_neg h, pure_bind]
    rfl

/-- Merging rows is taking all their sightings and then merging those. -/
theorem mergeRows_eq_sightAll (scan : Nat) (s : Store) (rows : List Observation) :
    mergeRows measure scan s rows = do
      let gs ← Sighting.takeAll measure rows
      return s.sightAll scan gs := by
  rw [mergeRows, Sighting.takeAll]
  induction rows generalizing s with
  | nil =>
      rw [List.foldlM_nil, List.mapM_nil, pure_bind]
      rfl
  | cons row rows ih =>
      -- the first sighting is merged before the other rows are measured, or after: no matter
      rw [List.foldlM_cons, List.mapM_cons, mergeRow_eq_sight]
      simp only [bind_assoc, pure_bind, ih]
      rfl

end Effects

end Registry

/-! ## As actions on a host -/

section Actions

variable {σ : Type} (measure : Action σ Float)

theorem Sighting.row_take (row : Observation) (s : σ) :
    (Sighting.take measure row s).value.row = row := by
  rw [Sighting.take]
  by_cases h : row.inUse = true
  · rw [dif_pos h]
    rfl
  · rw [dif_neg h]
    rfl

/-- The sightings of a scan have its rows, in their order. -/
theorem Sighting.rows_takeAll (rows : List Observation) (s : σ) :
    (Sighting.takeAll measure rows s).value.map (·.row) = rows := by
  rw [Sighting.takeAll]
  induction rows generalizing s with
  | nil => rfl
  | cons row rows ih =>
      rw [List.mapM_cons, Action.bind_apply, Action.bind_apply]
      show (Sighting.take measure row s).value.row :: _ = row :: rows
      rw [Sighting.row_take, ih]

/-- A refresh is taking the sightings of the scan and then absorbing them. -/
theorem Registry.refresh_eq_absorb (r : Registry) (rows : List Observation) (s : σ) :
    r.refresh measure rows s =
      ⟨r.absorb (Sighting.takeAll measure rows s).value, (Sighting.takeAll measure rows s).events,
        (Sighting.takeAll measure rows s).state⟩ := by
  rw [Registry.refresh, Registry.absorb]
  rw [Registry.mergeRows_eq_sightAll, Sighting.rows_takeAll]
  simp only [bind_assoc, pure_bind]
  rw [Action.bind_apply]
  show (⟨_, _ ++ [], _⟩ : Trace σ Refresh) = _
  rw [List.append_nil]
  rfl

/-- Whatever the measurements give, a refresh is absorbing sightings with the rows of the scan. -/
theorem Registry.exists_refresh_eq_absorb (r : Registry) (rows : List Observation) (s : σ) :
    ∃ gs : List Sighting, gs.map (·.row) = rows
      ∧ (r.refresh measure rows s).value = r.absorb gs := by
  refine ⟨_, Sighting.rows_takeAll measure rows s, ?_⟩
  rw [Registry.refresh_eq_absorb]

end Actions

/-! ## What a merge leaves under a BSSID -/

namespace Observation

/-- The row of a scan that counts for a BSSID: its last one. -/
def lastRow? (rows : List Observation) (bssid : String) : Option Observation :=
  (rows.filter (·.bssid == bssid)).getLast?

/-- The row of a scan that names the network of a BSSID not known yet: its first one. -/
def firstRow? (rows : List Observation) (bssid : String) : Option Observation :=
  (rows.filter (·.bssid == bssid)).head?

variable {rows : List Observation} {row : Observation} {bssid : String}

theorem lastRow?_mem (h : lastRow? rows bssid = some row) : row ∈ rows ∧ row.bssid = bssid := by
  have hmem := List.mem_filter.1 (List.mem_of_getLast? h)
  exact ⟨hmem.1, by simpa using hmem.2⟩

theorem firstRow?_mem (h : firstRow? rows bssid = some row) : row ∈ rows ∧ row.bssid = bssid := by
  have hmem := List.mem_filter.1 (List.mem_of_head? h)
  exact ⟨hmem.1, by simpa using hmem.2⟩

/-- The rows for the BSSID of a row are some. -/
theorem filter_bssid_ne_nil (h : row ∈ rows) : rows.filter (·.bssid == row.bssid) ≠ [] :=
  List.ne_nil_of_mem (List.mem_filter.2 ⟨h, beq_self_eq_true row.bssid⟩)

theorem exists_firstRow? (h : row ∈ rows) : ∃ first, firstRow? rows row.bssid = some first :=
  ⟨_, List.head?_eq_some_head (filter_bssid_ne_nil h)⟩

theorem exists_lastRow? (h : row ∈ rows) : ∃ last, lastRow? rows row.bssid = some last :=
  ⟨_, List.getLast?_eq_some_getLast (filter_bssid_ne_nil h)⟩

end Observation

namespace AccessPoint

/-- What is known under a BSSID after it was sighted. -/
def known (scan : Nat) (before : Option AccessPoint) (g : Sighting) : Option AccessPoint :=
  some ((before.getD (.ofObservation g.row)).sightedIn scan g)

/-- An access point says what a row says, apart from its network. -/
structure Mirrors (a : AccessPoint) (row : Observation) : Prop where
  bssid : a.bssid = row.bssid
  quality : a.quality = row.quality
  rate : a.rate = row.rate
  inUse : a.inUse = row.inUse

/-- No sighting changes the network of an access point. -/
theorem ssid_foldl_known {scan : Nat} {a b : AccessPoint} {gs : List Sighting}
    (h : gs.foldl (known scan) (some a) = some b) : b.ssid = a.ssid := by
  induction gs generalizing a with
  | nil =>
      obtain rfl := Option.some.inj h
      rfl
  | cons g gs ih =>
      rw [ih h, sightedIn_ssid]
      rfl

end AccessPoint

namespace Sighting

variable (gs : List Sighting) (bssid : String)

theorem filter_rows :
    (gs.map (·.row)).filter (·.bssid == bssid)
      = (gs.filter (·.row.bssid == bssid)).map (·.row) :=
  List.filter_map

theorem lastRow?_rows :
    Observation.lastRow? (gs.map (·.row)) bssid
      = ((gs.filter (·.row.bssid == bssid)).getLast?).map (·.row) := by
  rw [Observation.lastRow?, filter_rows, List.getLast?_map]

theorem firstRow?_rows :
    Observation.firstRow? (gs.map (·.row)) bssid
      = ((gs.filter (·.row.bssid == bssid)).head?).map (·.row) := by
  rw [Observation.firstRow?, filter_rows, List.head?_map]

end Sighting

namespace Store

variable (scan : Nat) (s : Store)

/-- What a store holds under the BSSID of a sighting is filed under it. -/
theorem bssid_getD_get? (o : Observation) :
    ((s.get? o.bssid).getD (.ofObservation o)).bssid = o.bssid := by
  cases h : s.get? o.bssid with
  | none => rfl
  | some a => exact (get?_eq_some_iff.1 h).2

theorem get?_sight (g : Sighting) (bssid : String) :
    (s.sight scan g).get? bssid =
      if bssid = g.row.bssid then AccessPoint.known scan (s.get? bssid) g else s.get? bssid := by
  rw [sight, get?_insert, AccessPoint.sightedIn_bssid, bssid_getD_get?]
  by_cases h : bssid = g.row.bssid
  · rw [if_pos h, if_pos h, h]
    rfl
  · rw [if_neg h, if_neg h]

/-- **Merging is local**: what a store looks up after a merge is what it looked up before, changed
by the sightings of that BSSID alone. -/
theorem get?_sightAll (gs : List Sighting) (bssid : String) :
    (s.sightAll scan gs).get? bssid =
      (gs.filter (·.row.bssid == bssid)).foldl (AccessPoint.known scan) (s.get? bssid) := by
  rw [sightAll]
  induction gs generalizing s with
  | nil => rfl
  | cons g gs ih =>
      rw [List.foldl_cons, ih, get?_sight]
      by_cases h : bssid = g.row.bssid
      · have hg : (g.row.bssid == bssid) = true := by simp [h]
        rw [if_pos h, List.filter_cons, if_pos hg, List.foldl_cons]
      · have hg : ¬ (g.row.bssid == bssid) = true := by simpa using Ne.symm h
        rw [if_neg h, List.filter_cons, if_neg hg]

variable {scan : Nat} {s : Store} {gs : List Sighting} {bssid : String} {row : Observation}
  {a : AccessPoint}

/-- An access point that the scan does not list stays as it is. -/
theorem get?_sightAll_of_lastRow?_eq_none
    (h : Observation.lastRow? (gs.map (·.row)) bssid = none) :
    (s.sightAll scan gs).get? bssid = s.get? bssid := by
  rw [Sighting.lastRow?_rows, Option.map_eq_none_iff, List.getLast?_eq_none_iff] at h
  rw [get?_sightAll, h]
  rfl

/-- An access point that the scan lists is known as its last row says. -/
theorem get?_sightAll_of_lastRow?_eq_some
    (h : Observation.lastRow? (gs.map (·.row)) bssid = some row) :
    ∃ a, (s.sightAll scan gs).get? bssid = some a ∧ a.Mirrors row ∧ a.lastSeen = scan := by
  rw [Sighting.lastRow?_rows, Option.map_eq_some_iff] at h
  obtain ⟨g, hlast, rfl⟩ := h
  -- the sightings of the BSSID end with its last one, which overwrites the others
  obtain ⟨before, hown⟩ := List.getLast?_eq_some_iff.1 hlast
  have hlook := get?_sightAll scan s gs bssid
  rw [hown, List.foldl_append] at hlook
  refine ⟨_, hlook, ⟨?_, by simp, by simp, by simp⟩, by simp⟩
  rw [(get?_eq_some_iff.1 hlook).2]
  exact (by simpa using (List.mem_filter.1 (List.mem_of_getLast? hlast)).2 :
    g.row.bssid = bssid).symm

/-- What is known under the BSSID of a row mirrors the last row for it. -/
theorem mirrors_of_get?_sightAll (h : (s.sightAll scan gs).get? bssid = some a)
    (hlast : Observation.lastRow? (gs.map (·.row)) bssid = some row) :
    a.Mirrors row ∧ a.lastSeen = scan := by
  obtain ⟨b, hb, hmirrors, hseen⟩ := get?_sightAll_of_lastRow?_eq_some hlast
  obtain rfl := Option.some.inj (h.symm.trans hb)
  exact ⟨hmirrors, hseen⟩

/-- An access point keeps its network through a merge. -/
theorem ssid_sightAll_of_known {a₀ : AccessPoint} (h₀ : s.get? bssid = some a₀)
    (h : (s.sightAll scan gs).get? bssid = some a) : a.ssid = a₀.ssid := by
  rw [get?_sightAll, h₀] at h
  exact AccessPoint.ssid_foldl_known h

/-- An access point that was not known has the network of its first row. -/
theorem ssid_sightAll_of_new (h₀ : s.get? bssid = none)
    (h : (s.sightAll scan gs).get? bssid = some a) :
    ∃ first, Observation.firstRow? (gs.map (·.row)) bssid = some first ∧ a.ssid = first.ssid := by
  rw [get?_sightAll, h₀] at h
  rw [Sighting.firstRow?_rows]
  cases hown : gs.filter (·.row.bssid == bssid) with
  | nil =>
      rw [hown] at h
      exact nomatch h
  | cons g later =>
      rw [hown, List.foldl_cons] at h
      refine ⟨g.row, rfl, ?_⟩
      rw [AccessPoint.ssid_foldl_known h, AccessPoint.sightedIn_ssid]
      rfl

end Store

end Roaming
