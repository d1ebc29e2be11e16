import Roaming.Proofs.Effects
import Roaming.Proofs.History
import Roaming.Proofs.LatestScan

/-!
# The scans of a history

The registry of a monitor is settled by the scans that succeeded. Whatever a history of operations
did besides, its registry has absorbed the rows of those scans in their order, and nothing else
(`exists_absorbAll_makeAll`). So what holds of every history of scans holds of the registry of a
monitor at any time.
-/

namespace Roaming

namespace Event

/-- The rows of a scan that succeeded. -/
def rows? : Event → Option (List Observation)
  | .scanned (.ok rows) => some rows
  | _ => none

/-- The rows of the scans that succeeded, scan by scan. -/
def scansOf (events : List Event) : List (List Observation) :=
  events.filterMap rows?

theorem scansOf_append (events later : List Event) :
    scansOf (events ++ later) = scansOf events ++ scansOf later :=
  List.filterMap_append

theorem scansOf_map_noted {α : Type} (f : α → Notice) (as : List α) :
    scansOf (as.map fun a => .noted (f a)) = [] := by
  rw [scansOf, List.filterMap_eq_nil_iff]
  intro event hevent
  obtain ⟨a, -, rfl⟩ := List.mem_map.1 hevent
  rfl

end Event

open Event

theorem Action.scansOf_noticed (n : Option Notice) : scansOf (Action.noticed n) = [] :=
  scansOf_map_noted id n.toList

variable {σ : Type} {host : Host σ}

/-- No scan is taken while sightings are. -/
theorem Sighting.scansOf_takeAll (pings : UInt32) (rows : List Observation) (s : σ) :
    scansOf (Sighting.takeAll (Latency.measure host pings) rows s).events = [] := by
  rw [scansOf, List.filterMap_eq_nil_iff]
  intro event hevent
  obtain ⟨s', hmem⟩ := Sighting.exists_measure_of_mem hevent
  rcases Latency.events_measure host pings s' with ⟨_, _, -, hevents⟩ | ⟨_, _, _, hevents⟩ <;>
    rw [hevents] at hmem <;> simp only [List.mem_cons, List.not_mem_nil, or_false] at hmem
  · rcases hmem with rfl | rfl <;> rfl
  · rcases hmem with rfl | rfl | rfl <;> rfl

/-- A host that takes the scans of a script in turn. It has no gateway, and all else succeeds. -/
def Host.scripted : Host (List (List Observation)) where
  isAvailable script := (.ok true, script)
  scan script := (.ok (script.headD []), script.tail)
  defaultGateway script := (.ok none, script)
  probe _ _ _ script := (.ok none, script)
  pin _ script := (.ok (), script)
  restart script := (.ok (), script)
  sleep _ script := script
  isRunning _ := true

namespace Monitor

variable {m : Monitor} {s : σ} {rows : List Observation} {sweep : Trace σ Refresh}

/-- A sweep absorbs sightings of the rows of its scan. -/
theorem Swept.exists_absorb (h : m.Swept host s rows sweep) :
    ∃ gs : List Sighting, gs.map (·.row) = rows ∧ sweep.value = m.registry.absorb gs := by
  obtain ⟨s₁, -, rfl⟩ := h
  rw [Registry.refresh_eq_absorb]
  exact ⟨_, Sighting.rows_takeAll _ rows s₁, rfl⟩

theorem Swept.scansOf_sweepEvents (h : m.Swept host s rows sweep) :
    scansOf (m.sweepEvents rows sweep) = [rows] := by
  obtain ⟨s₁, -, rfl⟩ := h
  -- the scan itself comes first, and sightings take no other
  rw [sweepEvents, Registry.refresh_eq_absorb]
  show rows :: scansOf (_ ++ _ ++ _) = [rows]
  rw [scansOf_append, scansOf_append, Sighting.scansOf_takeAll, Action.scansOf_noticed,
    Action.scansOf_noticed]
  rfl

theorem scansOf_judgeEvents (m : Monitor) (link : AccessPoint) :
    scansOf (m.judgeEvents link) = [] := by
  rw [judgeEvents, scansOf_append, Action.scansOf_noticed]
  exact scansOf_map_noted (m.judgement link) m.registry.candidates

theorem Swept.scansOf_choosing {link : AccessPoint} {choice : Choice}
    (h : m.Swept host s rows sweep) : scansOf (m.choosing rows sweep link choice) = [rows] := by
  rw [choosing, scansOf_append, scansOf_append, h.scansOf_sweepEvents, scansOf_judgeEvents]
  rfl

/-- An iteration absorbs the scan that it took, if that succeeded. -/
theorem Iteration.exists_absorbAll {t : Trace σ (Except Failure Decision × Monitor)}
    (h : Iteration host m s t) :
    ∃ history, Registry.rowsOf history = scansOf t.events
      ∧ t.value.2.registry = m.registry.absorbAll history := by
  -- after its scan an iteration takes no other
  have hone : ∀ {rows sweep}, m.Swept host s rows sweep → ∀ rest, scansOf rest = [] →
      ∃ history, Registry.rowsOf history = scansOf (m.sweepEvents rows sweep ++ rest)
        ∧ sweep.value.registry = m.registry.absorbAll history := by
    intro rows sweep hswept rest hrest
    obtain ⟨gs, rfl, hvalue⟩ := hswept.exists_absorb
    refine ⟨[gs], ?_, ?_⟩
    · rw [scansOf_append, hswept.scansOf_sweepEvents, hrest]
      rfl
    · rw [hvalue]
      rfl
  cases h with
  | scanFailed hscan => exact ⟨[], rfl, rfl⟩
  | unassociated hswept hactive =>
      have h := hone hswept [] rfl
      rw [List.append_nil] at h
      exact h
  | stayed hswept hactive hchoice => exact hone hswept _ (scansOf_judgeEvents _ _)
  | wouldSwitch hswept | pinFailed hswept | restartFailed hswept | switched hswept =>
      rw [List.append_assoc]
      refine hone hswept _ ?_
      rw [scansOf_append, scansOf_judgeEvents]
      rfl

/-- A start takes no scan. -/
theorem Startup.scansOf_eq_nil {t : Trace σ (Except Failure Phase × Monitor)}
    (h : Startup host m s t) : scansOf t.events = [] := by
  cases h <;> rfl

theorem scansOf_answer (outcome : Except Failure Decision) (s : σ) :
    scansOf (answer outcome s).events = [] := by
  obtain ⟨ns, hevents⟩ := exists_notices_answer outcome s
  rw [hevents]
  exact scansOf_map_noted id ns

/-- **A registry holds the scans of its history**: after any moves it has absorbed the rows of the
scans that succeeded, in their order, and nothing else. -/
theorem exists_absorbAll_makeAll (host : Host σ) (m : Monitor) (s : σ) (moves : List Move) :
    ∃ history, Registry.rowsOf history = scansOf (m.makeAll host moves s).events
      ∧ (m.makeAll host moves s).value.registry = m.registry.absorbAll history := by
  refine makeAll_induction (P := fun m' events _ =>
    ∃ history, Registry.rowsOf history = scansOf events
      ∧ m'.registry = m.registry.absorbAll history) [] ?_ ⟨[], rfl, rfl⟩
  rintro m' events s move ⟨history, hrows, hregistry⟩
  -- a move that takes no scan and keeps the registry keeps what was absorbed
  have hsame : scansOf (m'.make host move s).events = [] →
      (m'.make host move s).value.registry = m'.registry →
      ∃ history, Registry.rowsOf history = scansOf (events ++ (m'.make host move s).events)
        ∧ (m'.make host move s).value.registry = m.registry.absorbAll history := by
    intro hnone hkept
    refine ⟨history, ?_, hkept.trans hregistry⟩
    rw [scansOf_append, hnone, List.append_nil, hrows]
  cases move with
  | start =>
      obtain ⟨t, ht⟩ := exists_startup host m' s
      refine hsame ?_ ?_
      · rw [make_start, ht.start_eq]
        exact ht.scansOf_eq_nil
      · obtain ⟨phase, hphase⟩ := exists_phase_start host m' s
        rw [make_start, Trace.monitor, hphase]
  | tick =>
      obtain ⟨t, ht⟩ := exists_iteration host m' s
      obtain ⟨later, hlater, hvalue⟩ := ht.exists_absorbAll
      rw [make_tick, ht.tick_eq]
      refine ⟨history ++ later, ?_, ?_⟩
      · rw [Registry.rowsOf, List.map_append, ← Registry.rowsOf, ← Registry.rowsOf, hrows, hlater]
        exact (scansOf_append _ _).symm
      · rw [Registry.absorbAll_append, ← hregistry]
        exact hvalue
  | answer outcome =>
      rw [make_answer] at hsame ⊢
      exact hsame (scansOf_answer outcome s) rfl
  | pause cadence => exact hsame rfl rfl
  | stop => exact hsame rfl rfl

end Monitor

end Roaming
