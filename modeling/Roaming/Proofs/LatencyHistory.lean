import Roaming.Proofs.LatestScan
import Roaming.Proofs.Merge

/-!
# The history of a latency

A latency is a mean of means: the first sample of an access point as it is, and after that the mean
of what was kept and the next sample (`Latency.ofSamples`). Which samples go into it is settled by
two steps. A scan puts the samples of an access point's own rows into its latency, and an access
point that the scan inserts starts without one (`latency_absorb`). Eviction alters nothing. So by
induction over the scans since an access point was inserted, its latency is made of its own samples
since then (`latencies_since_insertion`); what was measured before an eviction is forgotten.
-/

namespace Roaming

namespace Latency

/-- The latency that samples make: the first is kept as it is, and then the mean of what is kept and
the next sample. -/
def ofSamples : List Float → Option Float
  | [] => none
  | sample :: samples => some (samples.foldl (fun kept sample => (kept + sample) / 2.0) sample)

theorem smoothAll_some (kept : Float) (samples : List Float) :
    smoothAll (some kept) samples
      = some (samples.foldl (fun kept sample => (kept + sample) / 2.0) kept) := by
  induction samples generalizing kept with
  | nil => rfl
  | cons sample samples ih => exact ih ((kept + sample) / 2.0)

theorem smoothAll_none (samples : List Float) : smoothAll none samples = ofSamples samples := by
  cases samples with
  | nil => rfl
  | cons sample samples => exact smoothAll_some sample samples

theorem ofSamples_eq_none_iff {samples : List Float} : ofSamples samples = none ↔ samples = [] := by
  rw [← smoothAll_none, smoothAll_eq_none_iff, and_iff_right rfl]

end Latency

/-! ## The samples of several scans -/

/-- The samples for a BSSID in several scans, given the samples of each scan. -/
def Observation.samplesForAll (scans : List (List Observation)) (measured : List (List Float))
    (bssid : String) : List Float :=
  (scans.zip measured).flatMap fun scan => samplesFor scan.1 scan.2 bssid

namespace Sighting

/-- The measurements of several scans, one scan after another. -/
def measureScans {m : Type → Type} [Monad m] (measure : m Float)
    (scans : List (List Observation)) : m (List (List Float)) :=
  scans.mapM (measureEach measure)

/-- Without a row in use there is no sample. -/
theorem samplesOf_eq_nil_iff {gs : List Sighting} {bssid : String} :
    samplesOf gs bssid = [] ↔
      ∀ row ∈ gs.map (·.row), row.bssid = bssid → row.inUse = false := by
  have hmark : ∀ g : Sighting, g.sample = none ↔ g.row.inUse = false := by
    intro g
    rw [← g.isSome_sample, Option.isSome_eq_false_iff, Option.isNone_iff_eq_none]
  rw [samplesOf, samples, List.filterMap_eq_nil_iff]
  simp only [List.mem_filter, beq_iff_eq, and_imp, hmark, List.forall_mem_map]

theorem samplesOf_scans (history : List (List Sighting)) (bssid : String) :
    history.flatMap (samplesOf · bssid) =
      Observation.samplesForAll (Registry.rowsOf history) (history.map samples) bssid := by
  rw [Observation.samplesForAll, Registry.rowsOf, List.zip_map', List.flatMap_map]
  exact congrArg (history.flatMap ·) (funext fun gs => samplesOf_eq gs bssid)

variable {σ : Type} (measure : Action σ Float)

theorem measureScans_apply (scans : List (List Observation)) (s : σ) :
    measureScans measure scans s =
      ⟨(Registry.takeScans measure scans s).value.map samples,
        (Registry.takeScans measure scans s).events,
        (Registry.takeScans measure scans s).state⟩ := by
  induction scans generalizing s with
  | nil => rfl
  | cons rows scans ih =>
      rw [measureScans, List.mapM_cons, Action.bind_apply, Action.bind_apply, Action.pure_apply,
        List.append_nil, measureEach_apply, Registry.takeScans_cons]
      show (⟨_ :: (measureScans measure scans _).value, _ ++ (measureScans measure scans _).events,
        (measureScans measure scans _).state⟩ : Trace σ (List (List Float))) = _
      rw [ih]
      rfl

/-- The samples that later scans have for a BSSID are those measured after the earlier scans. -/
theorem samplesOf_later {scans : List (List Observation)} {s : σ}
    {before later : List (List Sighting)}
    (h : (Registry.takeScans measure scans s).value = before ++ later) (bssid : String) :
    later.flatMap (samplesOf · bssid) = Observation.samplesForAll (Registry.rowsOf later)
      ((measureScans measure scans s).value.drop before.length) bssid := by
  rw [samplesOf_scans, measureScans_apply, h, List.map_append, ← List.length_map samples,
    List.drop_left]

end Sighting

namespace Registry

variable {r : Registry} {gs : List Sighting} {a : AccessPoint} {bssid : String}

/-- A scan puts its samples into the latency of an access point, whether it had one before or not.
-/
theorem latency_absorb (h : (r.absorb gs).registry.get? bssid = some a) :
    a.latency = Latency.smoothAll ((r.get? bssid).bind (·.latency))
      (Sighting.samplesOf gs bssid) := by
  have hlatency := Store.latency_sightAll (r.scans + 1) r.store gs bssid
  rw [Store.get?_of_get?_evict h] at hlatency
  exact hlatency

/-- The latency of what is stored is made of its samples since it was inserted. -/
theorem exists_insertion_latency {limits : Limits} {history : List (List Sighting)}
    (h : ((empty limits).absorbAll history).get? bssid = some a) :
    ∃ before first later, history = before ++ first :: later
      ∧ ((empty limits).absorbAll before).get? bssid = none
      ∧ (∀ middle, middle <+: later →
        (((empty limits).absorbAll (before ++ first :: middle)).get? bssid).isSome = true)
      ∧ a.latency = Latency.ofSamples ((first :: later).flatMap (Sighting.samplesOf · bssid)) := by
  refine exists_insertion (P := fun since a =>
    a.latency = Latency.ofSamples (since.flatMap (Sighting.samplesOf · bssid))) ?_ ?_ h
  · intro r gs a hnew hstored
    rw [latency_absorb hstored, hnew, List.flatMap_singleton]
    exact Latency.smoothAll_none _
  · intro r since gs b a hold hb hstored
    rw [latency_absorb hstored, hold, Option.bind_some, hb, ← Latency.smoothAll_none,
      ← Latency.smoothAll_append, Latency.smoothAll_none, List.flatMap_append,
      List.flatMap_singleton]

/-- **A latency is made of the samples since insertion**: in any sequence of scans, what is stored
was inserted by some scan and has been stored ever since. Its latency is made of exactly the samples
measured for its own rows in use from that scan on, in their order, and there is none exactly if no
row for it has been in use since. A single scan without a row in use for an access point leaves its
latency alone, and what a scan inserts starts with the samples of that scan. -/
theorem latencies_since_insertion {σ : Type} (measure : Action σ Float) (limits : Limits) :
    (∀ (scans : List (List Observation)) (s : σ),
      let run := (empty limits).refreshAll measure scans s
      let measured := Sighting.measureScans measure scans s
      (run.events = measured.events ∧ run.state = measured.state)
        ∧ ∀ bssid a, run.value.get? bssid = some a →
          ∃ before first later, scans = before ++ first :: later
            ∧ ((empty limits).refreshAll measure before s).value.get? bssid = none
            ∧ (∀ middle, middle <+: later →
              (((empty limits).refreshAll measure (before ++ first :: middle) s).value.get?
                bssid).isSome = true)
            ∧ a.latency = Latency.ofSamples (Observation.samplesForAll (first :: later)
                (measured.value.drop before.length) bssid)
            ∧ (a.latency = none ↔
              ∀ rows ∈ first :: later, ∀ row ∈ rows, row.bssid = bssid → row.inUse = false))
      ∧ ∀ (r : Registry) (rows : List Observation) (s : σ) bssid a,
        (r.refresh measure rows s).value.registry.get? bssid = some a →
        ((∀ row ∈ rows, row.bssid = bssid → row.inUse = false) →
          a.latency = (r.get? bssid).bind (·.latency))
        ∧ (r.get? bssid = none → a.latency = Latency.ofSamples (Observation.samplesFor rows
            (Sighting.measureEach measure rows s).value bssid)) := by
  refine ⟨?_, ?_⟩
  · intro scans s run measured
    have hmeasured : measured = _ := Sighting.measureScans_apply measure scans s
    have hrun : run = _ := refreshAll_eq_absorbAll measure (empty limits) scans s
    refine ⟨by rw [hmeasured, hrun]; exact ⟨rfl, rfl⟩, ?_⟩
    intro bssid a ha
    rw [hrun] at ha
    obtain ⟨before, first, later, hhistory, hnew, hkept, hlatency⟩ := exists_insertion_latency ha
    have hscans := rowsOf_takeScans measure scans s
    rw [hhistory, rowsOf_append, rowsOf_cons] at hscans
    refine ⟨rowsOf before, _, rowsOf later, hscans.symm, ?_, ?_, ?_, ?_⟩
    · rw [value_refreshAll_of_append measure _ hhistory]
      exact hnew
    · intro middle hmiddle
      obtain ⟨early, hearly, rfl⟩ := List.prefix_map_iff.1 hmiddle
      have hsome := hkept early hearly
      obtain ⟨late, rfl⟩ := hearly
      rw [← List.cons_append, ← List.append_assoc] at hhistory
      rw [← value_refreshAll_of_append measure _ hhistory, rowsOf_append, rowsOf_cons] at hsome
      exact hsome
    · have hlength : (rowsOf before).length = before.length := List.length_map _
      rw [hlatency, hlength, Sighting.samplesOf_later measure hhistory, rowsOf_cons]
    · rw [hlatency, Latency.ofSamples_eq_none_iff, List.flatMap_eq_nil_iff, ← rowsOf_cons, rowsOf]
      simp only [Sighting.samplesOf_eq_nil_iff, List.forall_mem_map]
  · intro r rows s bssid a ha
    rw [refresh_eq_absorb] at ha
    have hlatency := latency_absorb ha
    have hrows := Sighting.rows_takeAll measure rows s
    refine ⟨?_, ?_⟩
    · intro hidle
      rw [← hrows] at hidle
      rw [hlatency, Sighting.samplesOf_eq_nil_iff.2 hidle]
      rfl
    · intro hnew
      rw [hlatency, hnew, Sighting.samplesOf_eq, hrows, Sighting.measureEach_apply]
      exact Latency.smoothAll_none _

end Registry

end Roaming
