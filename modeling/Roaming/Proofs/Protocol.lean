import Roaming.Proofs.Calls
import Roaming.Proofs.LatestScan

/-!
# The call protocol of an iteration

The calls of an iteration follow a fixed protocol: a scan; if it succeeded, one measurement for each
row in use, which is a lookup and, if that found a gateway, a probe of it; and then, for a choice, a
pin, a restart if the pin was made, and the settle pause if the restart was made. `Event.Protocol`
says so as a grammar of calls.

`calls_of_iteration` is the main statement. The calls of every iteration are of the protocol, with
the replies of the host, and the answer of a step can be read off them. Lookups and probes have no
say in it: whatever they reply, all rows in use are measured and the choice is acted on.
-/

namespace Roaming

namespace Event

/-- The calls of a number of measurements, one after another. -/
inductive Measurements (pings : UInt32) : Nat → List Event → Prop where
  | none : Measurements pings 0 []
  /-- The lookup failed or found no gateway. -/
  | unrouted {count : Nat} {later : List Event} {reply : Except Failure (Option String)}
      (hreply : ∀ gateway, reply ≠ .ok (some gateway)) (hlater : Measurements pings count later) :
      Measurements pings (count + 1) (.lookedUp reply :: later)
  /-- The lookup found a gateway; the deadline of its probe is one second per echo and one more. -/
  | probed {count : Nat} {later : List Event} {gateway : String} {deadline : Span}
      {reply : Except Failure (Option RoundTrip)}
      (hdeadline : deadline.nanos = (pings.toNat + 1) * 1000000000)
      (hlater : Measurements pings count later) :
      Measurements pings (count + 1)
        (.lookedUp (.ok (some gateway)) :: .probed gateway pings deadline reply :: later)

/-- The calls of an iteration that chose to pin a BSSID, or that pinned nothing. -/
inductive Protocol (pings : UInt32) (settle : Span) : Option String → List Event → Prop where
  | scanFailed (failure : Failure) : Protocol pings settle none [.scanned (.error failure)]
  | kept {rows : List Observation} {measured : List Event}
      (hmeasured : Measurements pings (rows.countP (·.inUse)) measured) :
      Protocol pings settle none (.scanned (.ok rows) :: measured)
  | pinFailed {rows : List Observation} {measured : List Event}
      (hmeasured : Measurements pings (rows.countP (·.inUse)) measured) (bssid : String)
      (failure : Failure) :
      Protocol pings settle (some bssid)
        (.scanned (.ok rows) :: measured ++ [.pinned (some bssid) (.error failure)])
  | restartFailed {rows : List Observation} {measured : List Event}
      (hmeasured : Measurements pings (rows.countP (·.inUse)) measured) (bssid : String)
      (failure : Failure) :
      Protocol pings settle (some bssid)
        (.scanned (.ok rows) :: measured
          ++ [.pinned (some bssid) (.ok ()), .restarted (.error failure)])
  | switched {rows : List Observation} {measured : List Event}
      (hmeasured : Measurements pings (rows.countP (·.inUse)) measured) (bssid : String) :
      Protocol pings settle (some bssid)
        (.scanned (.ok rows) :: measured
          ++ [.pinned (some bssid) (.ok ()), .restarted (.ok ()), .slept settle])

/-- The failure of a scan, a pin or a restart. -/
def stop? : Event → Option Failure
  | .scanned (.error failure) => some failure
  | .pinned _ (.error failure) => some failure
  | .restarted (.error failure) => some failure
  | _ => none

/-- The failures of scans, pins and restarts. -/
def stopsOf (events : List Event) : List Failure :=
  events.filterMap stop?

theorem stopsOf_append (events later : List Event) :
    stopsOf (events ++ later) = stopsOf events ++ stopsOf later :=
  List.filterMap_append

variable {pings : UInt32} {count : Nat} {events : List Event}

/-- Measurements stop nothing. -/
theorem Measurements.stopsOf_eq_nil (h : Measurements pings count events) :
    stopsOf events = [] := by
  induction h with
  | none => rfl
  | unrouted _ _ ih => exact ih
  | probed _ _ ih => exact ih

/-- Measurements are without a pause. -/
theorem Measurements.slept_notMem (h : Measurements pings count events) (pause : Span) :
    .slept pause ∉ events := by
  induction h with
  | none => simp
  | unrouted _ _ ih => simp [ih]
  | probed _ _ ih => simp [ih]

/-- Behind a scan and its measurements only what closes an iteration can have stopped it. -/
theorem Measurements.stopsOf_closing (h : Measurements pings count events)
    (rows : List Observation) (closing : List Event) :
    stopsOf (.scanned (.ok rows) :: events ++ closing) = stopsOf closing := by
  rw [stopsOf_append]
  show stopsOf events ++ _ = _
  rw [h.stopsOf_eq_nil, List.nil_append]

/-- A scan and its measurements do not end in a pause. -/
theorem Measurements.getLast?_ne_slept (h : Measurements pings count events)
    (rows : List Observation) (pause : Span) :
    (Event.scanned (.ok rows) :: events).getLast? ≠ some (.slept pause) := by
  intro hlast
  rcases List.mem_cons.1 (List.mem_of_getLast? hlast) with heq | hmem
  · exact nomatch heq
  · exact h.slept_notMem pause hmem

end Event

/-- The failures that do not pass are those of settings. -/
theorem Failure.isTransient_eq_false_iff {failure : Failure} :
    failure.isTransient = false ↔ ∃ fault, failure = .badSettings fault := by
  cases failure <;> simp [isTransient]

open Event

variable {σ : Type} {host : Host σ}

/-- The deadline of a probe is one second per echo and one more. -/
theorem Latency.nanos_deadline (pings : UInt32) :
    (deadline pings).nanos = (pings.toNat + 1) * 1000000000 := by
  have hlt := pings.toNat_lt
  rw [deadline, Span.ofSeconds, UInt64.toNat_add, UInt32.toNat_toUInt64, UInt64.toNat_one,
    Nat.mod_eq_of_lt (by omega)]

/-- One measurement in front of others. -/
theorem Latency.measurements_measure (pings : UInt32) (s : σ) {count : Nat} {later : List Event}
    (hlater : Measurements pings count later) :
    Measurements pings (count + 1) (callsOf (Latency.measure host pings s).events ++ later) := by
  rcases Latency.events_measure host pings s with ⟨_, _, hreply, hevents⟩ | ⟨_, _, _, hevents⟩ <;>
    rw [hevents]
  · exact .unrouted hreply hlater
  · exact .probed (Latency.nanos_deadline pings) hlater

/-- Taking the sightings of a scan makes one measurement for each row in use. -/
theorem Sighting.measurements_takeAll (host : Host σ) (pings : UInt32) (rows : List Observation)
    (s : σ) :
    Measurements pings (rows.countP (·.inUse))
      (callsOf (Sighting.takeAll (Latency.measure host pings) rows s).events) := by
  rw [Sighting.takeAll]
  induction rows generalizing s with
  | nil => exact .none
  | cons row rows ih =>
      rw [List.mapM_cons, Action.bind_apply, Action.bind_apply, Action.pure_apply,
        List.append_nil]
      show Measurements pings _ (callsOf (_ ++ _))
      rw [callsOf_append, Sighting.take]
      by_cases hrow : row.inUse = true
      · rw [List.countP_cons_of_pos hrow, dif_pos hrow, Action.bind_apply, Action.pure_apply,
          List.append_nil]
        exact Latency.measurements_measure pings s (ih _)
      · rw [List.countP_cons_of_neg hrow, dif_neg hrow]
        exact ih s

namespace Monitor

variable {m : Monitor} {s : σ} {rows : List Observation} {sweep : Trace σ Refresh}

/-- The calls of a sweep are its scan and the measurements of the rows in use. -/
theorem Swept.exists_measurements (h : m.Swept host s rows sweep) :
    ∃ measured, Measurements m.settings.pingCount (rows.countP (·.inUse)) measured
      ∧ callsOf (m.sweepEvents rows sweep) = .scanned (.ok rows) :: measured := by
  obtain ⟨s₁, -, rfl⟩ := h
  refine ⟨_, Sighting.measurements_takeAll host m.settings.pingCount rows s₁, ?_⟩
  rw [sweepEvents, Registry.refresh_eq_absorb]
  show .scanned (.ok rows) :: callsOf (_ ++ _ ++ _) = _
  rw [callsOf_append, callsOf_append, Action.callsOf_noticed, Action.callsOf_noticed,
    List.nil_append, List.append_nil]

theorem callsOf_judgeEvents (m : Monitor) (link : AccessPoint) :
    callsOf (m.judgeEvents link) = [] := by
  rw [judgeEvents, callsOf_append, Action.callsOf_noticed]
  exact callsOf_map_noted (m.judgement link) m.registry.candidates

/-- What follows the judging of candidates adds its own calls. -/
theorem callsOf_sweep_judge (m m' : Monitor) (link : AccessPoint) (rest : List Event) :
    callsOf (m.sweepEvents rows sweep ++ m'.judgeEvents link ++ rest)
      = callsOf (m.sweepEvents rows sweep) ++ callsOf rest := by
  rw [callsOf_append, callsOf_append, callsOf_judgeEvents, List.append_nil]

/-- Only what follows the judging of candidates can have stopped an iteration. -/
theorem Swept.stopsOf_calls (h : m.Swept host s rows sweep) (m' : Monitor) (link : AccessPoint)
    (rest : List Event) :
    stopsOf (callsOf (m.sweepEvents rows sweep ++ m'.judgeEvents link ++ rest))
      = stopsOf (callsOf rest) := by
  obtain ⟨measured, hmeasured, hcalls⟩ := h.exists_measurements
  rw [callsOf_sweep_judge, hcalls, hmeasured.stopsOf_closing]

theorem scanned_mem_sweepEvents (m : Monitor) (rows : List Observation)
    (sweep : Trace σ Refresh) : .scanned (.ok rows) ∈ m.sweepEvents rows sweep :=
  List.mem_cons_self

/-! ## Iterations keep the protocol -/

/-- An iteration has a BSSID to pin: it is no dry run, its scan succeeded, and its registry has an
active link and a choice that beats it. -/
def Chooses (m : Monitor) (t : Trace σ (Except Failure Decision × Monitor)) (bssid : String) :
    Prop :=
  m.dryRun = false ∧ (∃ rows, .scanned (.ok rows) ∈ t.events)
    ∧ ∃ link choice, t.value.2.registry.active = .ok link ∧ t.value.2.choice? link = some choice
      ∧ choice.entry.bssid = bssid

variable {t : Trace σ (Except Failure Decision × Monitor)}

/-- With an active link it is the choice against this link that counts. -/
theorem chooses_iff {link : AccessPoint} {chosen : Option Choice}
    (hscanned : .scanned (.ok rows) ∈ t.events) (hactive : t.value.2.registry.active = .ok link)
    (hchoice : t.value.2.choice? link = chosen) {bssid : String} :
    m.Chooses t bssid ↔ m.dryRun = false ∧ chosen.map (·.entry.bssid) = some bssid := by
  rw [Chooses, hactive, Option.map_eq_some_iff]
  constructor
  · rintro ⟨hdry, -, link', choice, hlink, hchoice', hbssid⟩
    obtain rfl := Except.ok.inj hlink
    exact ⟨hdry, choice, hchoice.symm.trans hchoice', hbssid⟩
  · rintro ⟨hdry, choice, rfl, hbssid⟩
    exact ⟨hdry, ⟨rows, hscanned⟩, link, choice, rfl, hchoice, hbssid⟩

/-- Without a choice nothing is chosen. -/
theorem none_eq_iff_chooses {link : AccessPoint} (hscanned : .scanned (.ok rows) ∈ t.events)
    (hactive : t.value.2.registry.active = .ok link) (hchoice : t.value.2.choice? link = none)
    (bssid : String) : none = some bssid ↔ m.Chooses t bssid := by
  rw [chooses_iff hscanned hactive hchoice]
  simp

/-- A choice is chosen, unless in a dry run. -/
theorem some_eq_iff_chooses {link : AccessPoint} {choice : Choice} (hdry : m.dryRun = false)
    (hscanned : .scanned (.ok rows) ∈ t.events) (hactive : t.value.2.registry.active = .ok link)
    (hchoice : t.value.2.choice? link = some choice) (bssid : String) :
    some choice.entry.bssid = some bssid ↔ m.Chooses t bssid := by
  rw [chooses_iff hscanned hactive hchoice]
  simp [hdry]

/-- The calls of an iteration are of the protocol, and it pins exactly what it chooses. -/
theorem Iteration.protocol (h : Iteration host m s t) :
    ∃ target, Protocol m.settings.pingCount m.settle target (callsOf t.events)
      ∧ ∀ bssid, target = some bssid ↔ m.Chooses t bssid := by
  -- the scan is among the events of the iteration, whatever follows it
  have hscanned : ∀ {rows} {sweep : Trace σ Refresh} {later rest : List Event},
      .scanned (.ok rows) ∈ m.sweepEvents rows sweep ++ later ++ rest := by
    intro rows sweep later rest
    exact List.mem_append_left _ (List.mem_append_left _ (scanned_mem_sweepEvents m rows sweep))
  cases h with
  | scanFailed hscan =>
      refine ⟨none, .scanFailed _, ?_⟩
      simp [Chooses]
  | unassociated hswept hactive =>
      obtain ⟨measured, hmeasured, hcalls⟩ := hswept.exists_measurements
      refine ⟨none, ?_, ?_⟩
      · rw [hcalls]
        exact .kept hmeasured
      · simp [Chooses, hactive]
  | stayed hswept hactive hchoice =>
      obtain ⟨measured, hmeasured, hcalls⟩ := hswept.exists_measurements
      refine ⟨none, ?_, ?_⟩
      · rw [callsOf_append, callsOf_judgeEvents, List.append_nil, hcalls]
        exact .kept hmeasured
      · exact none_eq_iff_chooses (List.mem_append_left _ (scanned_mem_sweepEvents m _ _)) hactive
          hchoice
  | wouldSwitch hswept hactive hchoice hdry =>
      obtain ⟨measured, hmeasured, hcalls⟩ := hswept.exists_measurements
      refine ⟨none, ?_, ?_⟩
      · rw [callsOf_sweep_judge, hcalls, show callsOf [.noted _] = [] from rfl, List.append_nil]
        exact .kept hmeasured
      · simp [Chooses, hdry]
  | @pinFailed _ _ _ choice _ _ hswept hactive hchoice hdry =>
      obtain ⟨measured, hmeasured, hcalls⟩ := hswept.exists_measurements
      refine ⟨some choice.entry.bssid, ?_, some_eq_iff_chooses hdry hscanned hactive hchoice⟩
      rw [callsOf_sweep_judge, hcalls]
      exact .pinFailed hmeasured _ _
  | @restartFailed _ _ _ choice _ _ _ hswept hactive hchoice hdry =>
      obtain ⟨measured, hmeasured, hcalls⟩ := hswept.exists_measurements
      refine ⟨some choice.entry.bssid, ?_, some_eq_iff_chooses hdry hscanned hactive hchoice⟩
      rw [callsOf_sweep_judge, hcalls]
      exact .restartFailed hmeasured _ _
  | @switched _ _ _ choice _ _ hswept hactive hchoice hdry =>
      obtain ⟨measured, hmeasured, hcalls⟩ := hswept.exists_measurements
      refine ⟨some choice.entry.bssid, ?_, some_eq_iff_chooses hdry hscanned hactive hchoice⟩
      rw [callsOf_sweep_judge, hcalls]
      exact .switched hmeasured _

/-! ## The answer of a step is in its calls -/

theorem state_answer (outcome : Except Failure Decision) (s : σ) :
    (answer outcome s).state = s := by
  rcases outcome with failure | decision
  · cases failure <;> rfl
  · rfl

theorem value_answer_ok (decision : Decision) (s : σ) :
    (answer (.ok decision) s).value = .ok decision.cadence := rfl

theorem value_answer_of_transient {failure : Failure} (h : failure.isTransient = true) (s : σ) :
    (answer (.error failure) s).value = .ok .long := by
  cases failure with
  | badSettings fault => exact nomatch h
  | notConnected | notStarted | toolFailed => rfl

theorem value_answer_of_final {failure : Failure} (h : failure.isTransient = false) (s : σ) :
    (answer (.error failure) s).value = .error failure := by
  obtain ⟨fault, rfl⟩ := Failure.isTransient_eq_false_iff.1 h
  rfl

/-- An iteration that decided was not stopped, and it ends in the settle pause if it switched; one
that failed was stopped by its failure or lost the link. -/
theorem Iteration.outcome (h : Iteration host m s t) :
    (∃ decision, t.value.1 = .ok decision ∧ stopsOf (callsOf t.events) = []
      ∧ (decision.cadence = .short ↔ (callsOf t.events).getLast? = some (.slept m.settle)))
      ∨ ∃ failure, t.value.1 = .error failure
        ∧ (stopsOf (callsOf t.events) = [failure]
          ∨ stopsOf (callsOf t.events) = [] ∧ failure.isTransient = true)
        ∧ (callsOf t.events).getLast? ≠ some (.slept m.settle) := by
  cases h with
  | scanFailed hscan => exact .inr ⟨_, rfl, .inl rfl, by simp [callsOf, isCall]⟩
  | unassociated hswept hactive =>
      obtain ⟨measured, hmeasured, hcalls⟩ := hswept.exists_measurements
      have hfailure := (Registry.active_eq_error_iff.1 hactive).2
      refine .inr ⟨_, rfl, .inr ⟨?_, ?_⟩, ?_⟩
      · rw [hcalls, ← List.append_nil (_ :: measured), hmeasured.stopsOf_closing]
        rfl
      · rw [hfailure]
        rfl
      · rw [hcalls]
        exact hmeasured.getLast?_ne_slept _ _
  | stayed hswept hactive hchoice =>
      obtain ⟨measured, hmeasured, hcalls⟩ := hswept.exists_measurements
      refine .inl ⟨_, rfl, ?_, ?_⟩
      · rw [callsOf_append, callsOf_judgeEvents, hcalls, hmeasured.stopsOf_closing]
        rfl
      · rw [callsOf_append, callsOf_judgeEvents, hcalls, List.append_nil]
        simp [Decision.cadence, hmeasured.getLast?_ne_slept]
  | wouldSwitch hswept hactive hchoice hdry =>
      obtain ⟨measured, hmeasured, hcalls⟩ := hswept.exists_measurements
      refine .inl ⟨_, rfl, hswept.stopsOf_calls _ _ _, ?_⟩
      rw [callsOf_sweep_judge, hcalls, show callsOf [.noted _] = [] from rfl, List.append_nil]
      simp [Decision.cadence, hmeasured.getLast?_ne_slept]
  | pinFailed hswept hactive hchoice hdry | restartFailed hswept hactive hchoice hdry =>
      refine .inr ⟨_, rfl, .inl (hswept.stopsOf_calls _ _ _), ?_⟩
      rw [callsOf_sweep_judge]
      simp [callsOf, isCall]
  | switched hswept hactive hchoice hdry =>
      refine .inl ⟨_, rfl, hswept.stopsOf_calls _ _ _, ?_⟩
      rw [callsOf_sweep_judge]
      simp [callsOf, isCall, Decision.cadence]

/-- The answer to an iteration is one of three, each with calls of its own. -/
theorem Iteration.answer_cases (h : Iteration host m s t) (s' : σ) :
    ((answer t.value.1 s').value = .ok .short ∧ stopsOf (callsOf t.events) = []
        ∧ (callsOf t.events).getLast? = some (.slept m.settle))
      ∨ ((answer t.value.1 s').value = .ok .long
        ∧ (∀ fault, .badSettings fault ∉ stopsOf (callsOf t.events))
        ∧ (callsOf t.events).getLast? ≠ some (.slept m.settle))
      ∨ ∃ fault, (answer t.value.1 s').value = .error (.badSettings fault)
        ∧ stopsOf (callsOf t.events) = [.badSettings fault]
        ∧ (callsOf t.events).getLast? ≠ some (.slept m.settle) := by
  rcases h.outcome with ⟨decision, hvalue, hstops, hcadence⟩ | ⟨failure, hvalue, hstops, hlast⟩
  · rw [hvalue, value_answer_ok, hstops]
    cases hdecision : decision.cadence with
    | short => exact .inl ⟨rfl, rfl, hcadence.1 hdecision⟩
    | long =>
        refine .inr (.inl ⟨rfl, fun fault => List.not_mem_nil, fun hlast => ?_⟩)
        exact nomatch hdecision.symm.trans (hcadence.2 hlast)
  · rw [hvalue]
    cases hkind : failure.isTransient with
    | false =>
        rcases hstops with hstops | ⟨-, htransient⟩
        · obtain ⟨fault, rfl⟩ := Failure.isTransient_eq_false_iff.1 hkind
          exact .inr (.inr ⟨fault, value_answer_of_final hkind s', hstops, hlast⟩)
        · exact nomatch hkind.symm.trans htransient
    | true =>
        refine .inr (.inl ⟨value_answer_of_transient hkind s', fun fault hmem => ?_, hlast⟩)
        rcases hstops with hstops | ⟨hstops, -⟩
        · rw [hstops] at hmem
          obtain rfl := List.mem_singleton.1 hmem
          exact nomatch hkind
        · rw [hstops] at hmem
          exact List.not_mem_nil hmem

/-- **The calls of an iteration keep the protocol**, with the replies of the host, and a pin is made
exactly of what the iteration chooses, whatever became of lookups and probes. A step makes the same
calls. Its answer is the short interval exactly if they end in the settle pause, a failure exactly
if that failure stopped them and is one of settings, and the long interval in every other case. -/
theorem calls_of_iteration (host : Host σ) (m : Monitor) (s : σ) :
    let ticked := m.tick host s
    let stepped := m.step host s
    let calls := callsOf ticked.events
    (host.Answers s calls ∧ ticked.state = host.stateAfter s calls)
      ∧ (∃ target, Protocol m.settings.pingCount m.settle target calls
        ∧ ∀ bssid, target = some bssid ↔ m.Chooses ticked bssid)
      ∧ (callsOf stepped.events = calls ∧ stepped.state = ticked.state)
      ∧ (stepped.value.1 = .ok .short ↔ calls.getLast? = some (.slept m.settle))
      ∧ (∀ failure, stepped.value.1 = .error failure ↔
        failure ∈ stopsOf calls ∧ ∃ fault, failure = .badSettings fault)
      ∧ (stepped.value.1 = .ok .long ↔
        calls.getLast? ≠ some (.slept m.settle)
          ∧ ∀ fault, .badSettings fault ∉ stopsOf calls) := by
  intro ticked stepped calls
  have hiteration : Iteration host m s ticked := iteration_iff.2 rfl
  have hstepped : stepped = _ := step_apply m s
  refine ⟨?_, hiteration.protocol, ?_, ?_⟩
  · obtain ⟨hanswers, hstate⟩ := (Host.respects_answers host).tick (m := m) s
    exact ⟨hanswers.callsOf, hstate.trans Host.stateAfter_callsOf.symm⟩
  · obtain ⟨ns, hnotices⟩ := exists_notices_answer ticked.value.1 ticked.state
    rw [hstepped]
    refine ⟨?_, state_answer _ _⟩
    rw [callsOf_append, hnotices]
    exact (congrArg _ (callsOf_map_noted id ns)).trans (List.append_nil _)
  · rw [hstepped]
    show ((answer ticked.value.1 ticked.state).value = _ ↔ _)
      ∧ (∀ failure, (answer ticked.value.1 ticked.state).value = _ ↔ _)
      ∧ ((answer ticked.value.1 ticked.state).value = _ ↔ _)
    rcases hiteration.answer_cases ticked.state with
      ⟨hvalue, hstops, hlast⟩ | ⟨hvalue, hstops, hlast⟩ | ⟨fault, hvalue, hstops, hlast⟩
    · rw [hvalue, hstops]
      simp [calls, hlast]
    · rw [hvalue]
      refine ⟨by simp [calls, hlast], fun failure => ?_, by simp [calls, hlast, hstops]⟩
      constructor
      · intro h
        exact nomatch h
      · rintro ⟨hmem, fault, rfl⟩
        exact absurd hmem (hstops fault)
    · rw [hvalue, hstops]
      simp [calls, hlast, eq_comm]

end Monitor

end Roaming
