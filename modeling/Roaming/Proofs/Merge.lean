import Roaming.Proofs.Sighting

/-!
# A scan merged BSSID by BSSID

Merging a scan is one loop over its rows, which changes the store row by row and measures in
between. What it leaves under a BSSID does not show that loop: it hangs on what was there before, on
the rows of that BSSID, and on the samples measured for them (`AccessPoint.afterScan`).

The measurements come apart from the loop first. Sightings are taken by one measurement for each row
in use, in the order of the rows (`samples_takeAll`), so the sample of a sighting is the one that
the count of rows in use before it points to (`samplesOf_eq`). The rest is an induction over the
sightings of one BSSID: identity and network come from the first of them, quality, rate and mark
from the last, and the latency takes in every sample (`latency_sightAll`), as the first one or by a
mean (`Latency.smoothAll`).
-/

namespace Roaming

namespace Latency

/-- The latency kept after some samples: without one the first sample as it is, and then one mean
after another of what is kept and the next sample. -/
def smoothAll : Option Float → List Float → Option Float
  | kept, [] => kept
  | none, sample :: samples => smoothAll (some sample) samples
  | some kept, sample :: samples => smoothAll (some ((kept + sample) / 2.0)) samples

@[simp] theorem smoothAll_nil (kept : Option Float) : smoothAll kept [] = kept := by
  cases kept <;> rfl

theorem smoothAll_cons (kept : Option Float) (sample : Float) (samples : List Float) :
    smoothAll kept (sample :: samples) = smoothAll (some (smooth kept sample)) samples := by
  cases kept <;> rfl

theorem smoothAll_singleton (kept : Option Float) (sample : Float) :
    smoothAll kept [sample] = some (smooth kept sample) := by
  rw [smoothAll_cons, smoothAll_nil]

theorem smoothAll_append (kept : Option Float) (samples later : List Float) :
    smoothAll kept (samples ++ later) = smoothAll (smoothAll kept samples) later := by
  induction samples generalizing kept with
  | nil => rw [List.nil_append, smoothAll_nil]
  | cons sample samples ih => rw [List.cons_append, smoothAll_cons, smoothAll_cons, ih]

/-- There is no latency as long as there is no sample. -/
theorem smoothAll_eq_none_iff {kept : Option Float} {samples : List Float} :
    smoothAll kept samples = none ↔ kept = none ∧ samples = [] := by
  induction samples generalizing kept with
  | nil => rw [smoothAll_nil, and_iff_left rfl]
  | cons sample samples ih =>
      rw [smoothAll_cons, ih]
      simp

end Latency

/-! ## Measurements -/

namespace Observation

variable {row : Observation} {rows : List Observation} {sample : Float} {samples : List Float}
  {bssid : String}

/-- The samples for a BSSID, where the samples of a scan belong to its rows in use in turn. -/
def samplesFor (rows : List Observation) (samples : List Float) (bssid : String) : List Float :=
  (((rows.filter (·.inUse)).zip samples).filter (·.1.bssid == bssid)).map (·.2)

theorem samplesFor_cons_of_idle (h : row.inUse = false) :
    samplesFor (row :: rows) samples bssid = samplesFor rows samples bssid := by
  rw [samplesFor, List.filter_cons_of_neg (by simp [h])]
  rfl

theorem samplesFor_cons_of_used (h : row.inUse = true) :
    samplesFor (row :: rows) (sample :: samples) bssid =
      if row.bssid == bssid then sample :: samplesFor rows samples bssid
      else samplesFor rows samples bssid := by
  rw [samplesFor, List.filter_cons_of_pos h, List.zip_cons_cons, List.filter_cons]
  split <;> rfl

end Observation

namespace Sighting

/-- One measurement for each row in use, in the order of the rows. -/
def measureEach {m : Type → Type} [Monad m] (measure : m Float) (rows : List Observation) :
    m (List Float) :=
  (rows.filter (·.inUse)).mapM fun _ => measure

/-- The samples of sightings, in their order. -/
def samples (gs : List Sighting) : List Float :=
  gs.filterMap (·.sample)

/-- The samples of the sightings of a BSSID, in their order. -/
def samplesOf (gs : List Sighting) (bssid : String) : List Float :=
  samples (gs.filter (·.row.bssid == bssid))

theorem samples_cons (g : Sighting) (gs : List Sighting) :
    samples (g :: gs) = g.sample.toList ++ samples gs := by
  rw [samples, List.filterMap_cons]
  cases g.sample <;> rfl

/-- Exactly the rows in use have samples. -/
theorem length_samples (gs : List Sighting) :
    (samples gs).length = ((gs.map (·.row)).filter (·.inUse)).length := by
  induction gs with
  | nil => rfl
  | cons g gs ih =>
      rw [samples_cons, List.length_append, ih, List.map_cons, List.filter_cons, ← g.isSome_sample]
      cases g.sample with
      | none => exact Nat.zero_add _
      | some x => exact Nat.add_comm _ _

/-- Taking the sightings of a scan makes one measurement for each row in use, in the order of the
rows, and no other. -/
theorem samples_takeAll {m : Type → Type} [Monad m] [LawfulMonad m] (measure : m Float)
    (rows : List Observation) :
    (do
      let gs ← takeAll measure rows
      return samples gs) = measureEach measure rows := by
  rw [takeAll, measureEach]
  induction rows with
  | nil =>
      rw [List.mapM_nil, pure_bind]
      rfl
  | cons row rows ih =>
      rw [List.mapM_cons, List.filter_cons, take]
      by_cases h : row.inUse = true
      · -- the measurement for the row comes before those for the other rows
        rw [dif_pos h, if_pos h, List.mapM_cons, ← ih]
        simp only [bind_assoc, pure_bind]
        rfl
      · rw [dif_neg h, if_neg h, ← ih]
        simp only [bind_assoc, pure_bind]
        rfl

/-- The sample of a row in use is the next one, so the samples of a BSSID are found by counting the
rows in use. -/
theorem samplesOf_eq (gs : List Sighting) (bssid : String) :
    samplesOf gs bssid = Observation.samplesFor (gs.map (·.row)) (samples gs) bssid := by
  induction gs with
  | nil => rfl
  | cons g gs ih =>
      have hown : samplesOf (g :: gs) bssid =
          if g.row.bssid == bssid then g.sample.toList ++ samplesOf gs bssid
          else samplesOf gs bssid := by
        rw [samplesOf, List.filter_cons]
        split
        · exact samples_cons g _
        · rfl
      have hmark := g.isSome_sample
      rw [hown, samples_cons, List.map_cons]
      cases hsample : g.sample with
      | none =>
          rw [hsample] at hmark
          rw [Observation.samplesFor_cons_of_idle hmark.symm, ih]
          exact ite_self _
      | some x =>
          rw [hsample] at hmark
          show _ = Observation.samplesFor _ (x :: samples gs) bssid
          rw [Observation.samplesFor_cons_of_used hmark.symm, ih]
          rfl

/-- Taking sightings is making the measurements: what happens is the same, and the sightings have
the samples. -/
theorem measureEach_apply {σ : Type} (measure : Action σ Float) (rows : List Observation) (s : σ) :
    measureEach measure rows s =
      ⟨samples (takeAll measure rows s).value, (takeAll measure rows s).events,
        (takeAll measure rows s).state⟩ := by
  rw [← samples_takeAll]
  show (⟨_, _ ++ [], _⟩ : Trace σ (List Float)) = _
  rw [List.append_nil]
  rfl

end Sighting

/-! ## One BSSID -/

namespace AccessPoint

/-- What a scan leaves under a BSSID. Without a row for it this is what was there before. Otherwise
an access point known before keeps its network, a new one has that of its first row; the last row
tells the rest, and each sample for the BSSID goes into the latency. -/
def afterScan (scan : Nat) (rows : List Observation) (samples : List Float) (bssid : String)
    (before : Option AccessPoint) : Option AccessPoint :=
  match Observation.firstRow? rows bssid, Observation.lastRow? rows bssid with
  | some first, some last =>
    some
      { bssid
        ssid := (before.map (·.ssid)).getD first.ssid
        quality := last.quality
        rate := last.rate
        inUse := last.inUse
        latency := Latency.smoothAll (before.bind (·.latency))
          (Observation.samplesFor rows samples bssid)
        lastSeen := scan }
  | _, _ => before

theorem latency_sightedIn (a : AccessPoint) (scan : Nat) (g : Sighting) :
    (a.sightedIn scan g).latency = Latency.smoothAll a.latency g.sample.toList := by
  rw [sightedIn]
  cases g.sample with
  | none => exact (Latency.smoothAll_nil a.latency).symm
  | some sample => exact (Latency.smoothAll_singleton a.latency sample).symm

theorem latency_known (scan : Nat) (before : Option AccessPoint) (g : Sighting) :
    (known scan before g).bind (·.latency)
      = Latency.smoothAll (before.bind (·.latency)) g.sample.toList := by
  have hkept : (before.getD (.ofObservation g.row)).latency = before.bind (·.latency) := by
    cases before <;> rfl
  show ((before.getD (.ofObservation g.row)).sightedIn scan g).latency = _
  rw [latency_sightedIn, hkept]

/-- Sightings of one access point put their samples into its latency, and change it by nothing else.
-/
theorem latency_foldl_known (scan : Nat) (before : Option AccessPoint) (gs : List Sighting) :
    (gs.foldl (known scan) before).bind (·.latency)
      = Latency.smoothAll (before.bind (·.latency)) (Sighting.samples gs) := by
  induction gs generalizing before with
  | nil => exact (Latency.smoothAll_nil _).symm
  | cons g gs ih =>
      rw [List.foldl_cons, ih, latency_known, Sighting.samples_cons, Latency.smoothAll_append]

end AccessPoint

namespace Store

variable {scan : Nat} {s : Store} {gs : List Sighting} {bssid : String}

theorem latency_sightAll (scan : Nat) (s : Store) (gs : List Sighting) (bssid : String) :
    ((s.sightAll scan gs).get? bssid).bind (·.latency)
      = Latency.smoothAll ((s.get? bssid).bind (·.latency)) (Sighting.samplesOf gs bssid) := by
  rw [get?_sightAll, AccessPoint.latency_foldl_known]
  rfl

/-- **One BSSID at a time**: what a merge leaves under a BSSID follows from what was there before,
the rows of the scan and the samples. -/
theorem get?_sightAll_eq_afterScan :
    (s.sightAll scan gs).get? bssid =
      AccessPoint.afterScan scan (gs.map (·.row)) (Sighting.samples gs) bssid (s.get? bssid) := by
  rw [AccessPoint.afterScan]
  cases hlast : Observation.lastRow? (gs.map (·.row)) bssid with
  | none =>
      rw [get?_sightAll_of_lastRow?_eq_none hlast]
      cases Observation.firstRow? (gs.map (·.row)) bssid <;> rfl
  | some last =>
      obtain ⟨a, ha, hmirrors, hseen⟩ := get?_sightAll_of_lastRow?_eq_some hlast
      obtain ⟨hrow, hown⟩ := Observation.lastRow?_mem hlast
      obtain ⟨first, hfirst⟩ := Observation.exists_firstRow? hrow
      rw [hown] at hfirst
      have hlatency := latency_sightAll scan s gs bssid
      have hssid : a.ssid = ((s.get? bssid).map (·.ssid)).getD first.ssid := by
        cases hold : s.get? bssid with
        | some b => exact ssid_sightAll_of_known hold ha
        | none =>
            obtain ⟨row, hrow, hssid⟩ := ssid_sightAll_of_new hold ha
            obtain rfl := Option.some.inj (hfirst.symm.trans hrow)
            exact hssid
      rw [ha, Option.bind_some, Sighting.samplesOf_eq] at hlatency
      rw [ha, hfirst]
      obtain ⟨-, hbssid⟩ := get?_eq_some_iff.1 ha
      subst hbssid
      show some a = some (AccessPoint.mk a.bssid _ _ _ _ _ _)
      rw [← hssid, ← hmirrors.quality, ← hmirrors.rate, ← hmirrors.inUse, ← hlatency, ← hseen]

/-- A merge leaves the BSSIDs that were there before and those of the scan, and no other. -/
theorem isSome_get?_sightAll :
    ((s.sightAll scan gs).get? bssid).isSome = true ↔
      (s.get? bssid).isSome = true ∨ ∃ row ∈ gs.map (·.row), row.bssid = bssid := by
  cases hlast : Observation.lastRow? (gs.map (·.row)) bssid with
  | none =>
      have hnone : ¬ ∃ row ∈ gs.map (·.row), row.bssid = bssid := by
        rintro ⟨row, hrow, rfl⟩
        obtain ⟨last, hsome⟩ := Observation.exists_lastRow? hrow
        exact nomatch hlast.symm.trans hsome
      rw [get?_sightAll_of_lastRow?_eq_none hlast, or_iff_left hnone]
  | some last =>
      obtain ⟨a, ha, -⟩ := get?_sightAll_of_lastRow?_eq_some hlast
      rw [ha]
      exact iff_of_true rfl (.inr ⟨last, Observation.lastRow?_mem hlast⟩)

end Store

/-- **A scan merges BSSID by BSSID**: whatever the registry and the rows are, the measurements made
are one for each row in use, in the order of the rows. Before the eviction the store holds the
BSSIDs from before and those of the rows. Under each of them stands what was there before, its own
rows and the samples of its own rows in use make of it, where the samples belong to the rows in use
of the whole scan in turn. -/
theorem Registry.scans_merge_by_bssid {σ : Type} (measure : Action σ Float) (r : Registry)
    (rows : List Observation) (s : σ) :
    let measured := Sighting.measureEach measure rows s
    let merged := mergeRows measure (r.scans + 1) r.store rows s
    let fresh := merged.value.dropStale r.limits (r.scans + 1)
    let kept := merged.value.evict r.limits (r.scans + 1)
    (merged.events = measured.events ∧ merged.state = measured.state)
      ∧ measured.value.length = (rows.filter (·.inUse)).length
      ∧ (∀ bssid, (merged.value.get? bssid).isSome = true ↔
          (r.store.get? bssid).isSome = true ∨ ∃ row ∈ rows, row.bssid = bssid)
      ∧ (∀ bssid, merged.value.get? bssid =
          AccessPoint.afterScan (r.scans + 1) rows measured.value bssid (r.store.get? bssid))
      ∧ r.refresh measure rows s =
          ⟨⟨{ r with store := kept, target := r.target <|> r.learns? rows, scans := r.scans + 1 },
            merged.value.size - fresh.size, fresh.size - kept.size⟩,
            measured.events, measured.state⟩ := by
  intro measured merged fresh kept
  have hmeasured : measured = _ := Sighting.measureEach_apply measure rows s
  have hmerged : merged = ⟨r.store.sightAll (r.scans + 1) (Sighting.takeAll measure rows s).value,
      (Sighting.takeAll measure rows s).events, (Sighting.takeAll measure rows s).state⟩ := by
    show mergeRows measure (r.scans + 1) r.store rows s = _
    rw [mergeRows_eq_sightAll, Action.bind_apply, Action.pure_apply, List.append_nil]
  have hrows : (Sighting.takeAll measure rows s).value.map (·.row) = rows :=
    Sighting.rows_takeAll measure rows s
  refine ⟨?_, ?_, ?_, ?_, ?_⟩
  · rw [hmerged, hmeasured]
    exact ⟨rfl, rfl⟩
  · rw [hmeasured, Sighting.length_samples, hrows]
  · intro bssid
    rw [hmerged, Store.isSome_get?_sightAll, hrows]
  · intro bssid
    rw [hmerged, hmeasured, Store.get?_sightAll_eq_afterScan, hrows]
  · have hvalue : merged.value = r.store.sightAll (r.scans + 1)
        (Sighting.takeAll measure rows s).value := by
      rw [hmerged]
    rw [refresh_eq_absorb, absorb, hrows, hmeasured, ← hvalue]

end Roaming
