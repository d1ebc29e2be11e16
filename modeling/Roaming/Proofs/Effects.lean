import Mathlib.Data.List.Basic
import Roaming.Probe
import Roaming.Proofs.Sighting
import Roaming.Proofs.Startup

/-!
# The effects of an iteration

Of all events only pins, restarts and pauses act on the machine; the others look at it or write to
the log. Whatever comes before the choice of a candidate is *quiet* (`quiet_sweepEvents`,
`quiet_judgeEvents`), so an iteration pins at most once, and only what it chose after its own scan
(`Iteration.of_pinned`). A dry run is quiet throughout (`quiet_tick`, `quiet_start`).
-/

namespace Roaming

namespace Event

/-- Whether an event acts on the machine. -/
def isAct : Event → Bool
  | .pinned _ _ => true
  | .restarted _ => true
  | .slept _ => true
  | _ => false

/-- Whether an event is a look at the surroundings: a scan, a lookup or a probe. -/
def isLook : Event → Bool
  | .scanned _ => true
  | .lookedUp _ => true
  | .probed _ _ _ _ => true
  | _ => false

/-- The BSSID that the profile was to be pinned to. -/
def target? : Event → Option String
  | .pinned bssid _ => bssid
  | _ => none

/-- The BSSIDs that the profile was to be pinned to, in their order. -/
def targetsOf (events : List Event) : List String :=
  events.filterMap target?

theorem exists_pinned_of_mem {events : List Event} {bssid : String} (h : bssid ∈ targetsOf events) :
    ∃ before reply after, events = before ++ .pinned (some bssid) reply :: after := by
  obtain ⟨event, hmem, htarget⟩ := List.mem_filterMap.1 h
  obtain ⟨before, after, hevents⟩ := List.append_of_mem hmem
  cases event with
  | pinned target reply =>
      obtain rfl : target = some bssid := htarget
      exact ⟨before, reply, after, hevents⟩
  | asked | scanned | lookedUp | probed | restarted | slept | noted => exact nomatch htarget

/-- No event acts on the machine. -/
def Quiet (events : List Event) : Prop :=
  ∀ event ∈ events, event.isAct = false

variable {events later : List Event} {event : Event}

@[simp] theorem quiet_nil : Quiet [] := by
  intro event hevent
  exact nomatch hevent

@[simp] theorem quiet_cons_iff :
    Quiet (event :: events) ↔ event.isAct = false ∧ Quiet events :=
  List.forall_mem_cons

@[simp] theorem quiet_append_iff : Quiet (events ++ later) ↔ Quiet events ∧ Quiet later :=
  List.forall_mem_append

@[simp] theorem quiet_map_noted {α : Type} (f : α → Notice) (as : List α) :
    Quiet (as.map fun a => .noted (f a)) := by
  intro event hevent
  obtain ⟨a, -, rfl⟩ := List.mem_map.1 hevent
  rfl

theorem Quiet.not_pinned (h : Quiet events) (bssid : Option String) (reply : Except Failure Unit) :
    .pinned bssid reply ∉ events := by
  intro hmem
  exact nomatch h _ hmem

end Event

open Event

@[simp] theorem Action.quiet_noticed (n : Option Notice) : Quiet (Action.noticed n) :=
  quiet_map_noted id n.toList

variable {σ : Type} {host : Host σ}

/-! ## Sweeping and judging -/

/-- A measurement looks the gateway up, probes it if there is one, and writes to the log. -/
theorem Latency.events_measure (host : Host σ) (pings : UInt32) (s : σ) :
    (∃ reply n, (∀ gateway, reply ≠ .ok (some gateway))
        ∧ (Latency.measure host pings s).events = [.lookedUp reply, .noted n])
      ∨ ∃ gateway reply n, (Latency.measure host pings s).events
          = [.lookedUp (.ok (some gateway)), .probed gateway pings (deadline pings) reply,
              .noted n] := by
  rcases hlookup : host.defaultGateway s with ⟨failure | _ | gateway, s₁⟩ <;>
    rw [Latency.measure, Action.bind_apply, Host.lookUpGateway, Action.ask_apply hlookup]
  · exact .inl ⟨.error failure, _, by simp, rfl⟩
  · exact .inl ⟨.ok none, _, by simp, rfl⟩
  · rcases hprobe : host.probe gateway pings (deadline pings) s₁ with ⟨failure | _ | times, s₂⟩ <;>
      simp only [Action.bind_apply, Host.sendProbe, Action.ask_apply hprobe] <;>
      exact .inr ⟨_, _, _, rfl⟩

theorem Latency.quiet_measure (host : Host σ) (pings : UInt32) (s : σ) :
    Quiet (Latency.measure host pings s).events := by
  rcases Latency.events_measure host pings s with ⟨_, _, -, hevents⟩ | ⟨_, _, _, hevents⟩ <;>
    simp [hevents, isAct]

/-- The events of taking sightings are those of measurements. -/
theorem Sighting.exists_measure_of_mem {measure : Action σ Float} {rows : List Observation} {s : σ}
    {event : Event} (h : event ∈ (Sighting.takeAll measure rows s).events) :
    ∃ s', event ∈ (measure s').events := by
  rw [Sighting.takeAll] at h
  induction rows generalizing s with
  | nil => exact absurd h List.not_mem_nil
  | cons row rows ih =>
      rw [List.mapM_cons, Action.bind_apply, Action.bind_apply, Action.pure_apply,
        List.append_nil] at h
      rcases List.mem_append.1 h with hfirst | hrest
      · rw [Sighting.take] at hfirst
        by_cases hrow : row.inUse = true
        · rw [dif_pos hrow, Action.bind_apply, Action.pure_apply, List.append_nil] at hfirst
          exact ⟨s, hfirst⟩
        · rw [dif_neg hrow] at hfirst
          exact absurd hfirst List.not_mem_nil
      · exact ih hrest

namespace Monitor

variable {m : Monitor} {s : σ}

/-- A scan and its merging leave the machine as it is. -/
theorem Swept.quiet_sweepEvents {rows : List Observation} {sweep : Trace σ Refresh}
    (h : m.Swept host s rows sweep) : Quiet (m.sweepEvents rows sweep) := by
  obtain ⟨s₁, -, rfl⟩ := h
  have hmeasured : Quiet (m.registry.refresh (Latency.measure host m.settings.pingCount) rows
      s₁).events := by
    rw [Registry.refresh_eq_absorb]
    intro event hevent
    obtain ⟨s', hmem⟩ := Sighting.exists_measure_of_mem hevent
    exact Latency.quiet_measure host m.settings.pingCount s' event hmem
  simp [sweepEvents, isAct, hmeasured]

theorem quiet_judgeEvents (m : Monitor) (link : AccessPoint) : Quiet (m.judgeEvents link) := by
  simp [judgeEvents, isAct]

/-- So does judging the candidates of the scan. -/
theorem Swept.quiet_judged {rows : List Observation} {sweep : Trace σ Refresh}
    (h : m.Swept host s rows sweep) (link : AccessPoint) :
    Quiet (m.sweepEvents rows sweep ++ (m.withSweep sweep).judgeEvents link) :=
  quiet_append_iff.2 ⟨h.quiet_sweepEvents, quiet_judgeEvents _ link⟩

/-! ## Pins of an iteration -/

/-- The events of an iteration before it acts on a choice. -/
def choosing (m : Monitor) (rows : List Observation) (sweep : Trace σ Refresh) (link : AccessPoint)
    (choice : Choice) : List Event :=
  m.sweepEvents rows sweep ++ (m.withSweep sweep).judgeEvents link
    ++ [.noted (.switching link.bssid choice m.dryRun)]

theorem Swept.quiet_choosing {rows : List Observation} {sweep : Trace σ Refresh}
    {link : AccessPoint} {choice : Choice} (h : m.Swept host s rows sweep) :
    Quiet (m.choosing rows sweep link choice) := by
  simp [choosing, h.quiet_sweepEvents, quiet_judgeEvents, isAct]

/-- An iteration leaves the machine as it is, or it pins what it chose after its own scan, once. -/
theorem Iteration.quiet_or_pinned {t : Trace σ (Except Failure Decision × Monitor)}
    (h : Iteration host m s t) :
    Quiet t.events ∨ ∃ rows sweep link choice reply rest, m.Swept host s rows sweep
      ∧ (m.withSweep sweep).registry.active = .ok link
      ∧ (m.withSweep sweep).choice? link = some choice ∧ m.dryRun = false
      ∧ t.value.2.registry = (m.withSweep sweep).registry
      ∧ t.events = m.choosing rows sweep link choice
          ++ .pinned (some choice.entry.bssid) reply :: rest
      ∧ ∀ bssid reply, .pinned bssid reply ∉ rest := by
  cases h with
  | scanFailed hscan => exact .inl (quiet_cons_iff.2 ⟨rfl, quiet_nil⟩)
  | unassociated hswept hactive => exact .inl hswept.quiet_sweepEvents
  | stayed hswept hactive hchoice => exact .inl (hswept.quiet_judged _)
  | wouldSwitch hswept hactive hchoice hdry => exact .inl hswept.quiet_choosing
  | pinFailed hswept hactive hchoice hdry | restartFailed hswept hactive hchoice hdry
  | switched hswept hactive hchoice hdry =>
      refine .inr ⟨_, _, _, _, _, _, hswept, hactive, hchoice, hdry, rfl,
        List.append_cons _ _ _, ?_⟩
      simp

/-- A pin of an iteration is what the iteration chose after its own scan, and its only pin. -/
theorem Iteration.of_pinned {t : Trace σ (Except Failure Decision × Monitor)}
    (h : Iteration host m s t) {before after : List Event} {bssid : Option String}
    {reply : Except Failure Unit} (hpinned : t.events = before ++ .pinned bssid reply :: after) :
    ∃ rows sweep link choice, m.Swept host s rows sweep
      ∧ (m.withSweep sweep).registry.active = .ok link
      ∧ (m.withSweep sweep).choice? link = some choice
      ∧ t.value.2.registry = (m.withSweep sweep).registry
      ∧ bssid = some choice.entry.bssid ∧ before = m.choosing rows sweep link choice
      ∧ ∀ bssid reply, .pinned bssid reply ∉ before ++ after := by
  rcases h.quiet_or_pinned with hquiet |
    ⟨rows, sweep, link, choice, reply', rest, hswept, hactive, hchoice, -, hregistry, hevents,
      hrest⟩
  · rw [hpinned] at hquiet
    exact absurd (List.mem_append_right _ List.mem_cons_self) (hquiet.not_pinned bssid reply)
  · rw [hpinned] at hevents
    obtain ⟨hbefore, heq, hafter⟩ := (List.append_cons_inj_of_notMem
      (hswept.quiet_choosing.not_pinned _ _) (hrest _ _)).1 hevents.symm
    refine ⟨rows, sweep, link, choice, hswept, hactive, hchoice, hregistry, ?_, hbefore.symm, ?_⟩
    · exact (Event.pinned.inj heq).1.symm
    · intro bssid' reply' hmem
      rw [← hbefore, ← hafter] at hmem
      rcases List.mem_append.1 hmem with hmem | hmem
      · exact hswept.quiet_choosing.not_pinned _ _ hmem
      · exact hrest _ _ hmem

/-! ## Dry runs -/

/-- An iteration of a dry run leaves the machine as it is. -/
theorem quiet_tick (hdry : m.dryRun = true) (s : σ) : Quiet (m.tick host s).events := by
  obtain ⟨t, ht⟩ := exists_iteration host m s
  rw [ht.tick_eq]
  rcases ht.quiet_or_pinned with hquiet | ⟨_, _, _, _, _, _, _, _, _, hwet, _⟩
  · exact hquiet
  · exact nomatch hdry.symm.trans hwet

/-- A start of a dry run leaves the machine as it is. -/
theorem quiet_start (hdry : m.dryRun = true) (s : σ) : Quiet (m.start host s).events := by
  obtain ⟨t, ht⟩ := exists_startup host m s
  rw [ht.start_eq]
  cases ht with
  | unanswered hasked | unavailable hasked | leftAlone hasked => simp [isAct]
  | unpinFailed hasked hwet | restartFailed hasked hwet | cleared hasked hwet =>
      exact nomatch hdry.symm.trans hwet

/-- The answer to an outcome only writes to the log. -/
theorem exists_notices_answer (outcome : Except Failure Decision) (s : σ) :
    ∃ ns : List Notice, (answer outcome s).events = ns.map fun n => .noted n := by
  rcases outcome with failure | decision
  · cases failure with
    | badSettings fault => exact ⟨[], rfl⟩
    | notConnected ssid | notStarted program cause | toolFailed program status stderr =>
        exact ⟨[_], rfl⟩
  · exact ⟨[], rfl⟩

theorem quiet_answer (outcome : Except Failure Decision) (s : σ) :
    Quiet (answer outcome s).events := by
  obtain ⟨ns, hevents⟩ := exists_notices_answer outcome s
  rw [hevents]
  exact quiet_map_noted id ns

/-- A start pins nothing; at most it clears the pin. -/
theorem not_pinned_some_start (m : Monitor) (s : σ) (bssid : String) (reply : Except Failure Unit) :
    .pinned (some bssid) reply ∉ (m.start host s).events := by
  obtain ⟨t, ht⟩ := exists_startup host m s
  rw [ht.start_eq]
  cases ht <;> simp

end Monitor

end Roaming
