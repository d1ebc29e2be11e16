import Roaming.Monitor

/-!
# The ways an iteration can end

`Iteration` lists the seven ways in which an iteration can end, each with the decision, the monitor
it leaves and the events in their order. `iteration_iff` says that these are exactly the behaviours
of `Monitor.tick`, so what is said of iterations is shown by going through the seven, and the
outcome of an iteration is found by naming the one that applies.

Up to the choice of a candidate the ways differ in nothing: a scan is taken and merged
(`Monitor.Swept`), the active link is reported, and the candidates are judged.
-/

namespace Roaming

/-! ## Actions on notices -/

namespace Action

variable {σ α : Type}

theorem ask_apply {question : σ → α × σ} {event : α → Event} {s s' : σ} {reply : α}
    (h : question s = (reply, s')) : ask question event s = ⟨reply, [event reply], s'⟩ := by
  simp only [ask, h]

/-- The events of writing a notice if there is one. -/
def noticed (n : Option Notice) : List Event :=
  n.toList.map .noted

theorem note_apply (n : Notice) (s : σ) : note n s = ⟨(), [.noted n], s⟩ := rfl

theorem noteAny_apply (n : Option Notice) (s : σ) : noteAny n s = ⟨(), noticed n, s⟩ := by
  cases n with
  | none => rfl
  | some n => rfl

theorem noteEach_apply (f : α → Notice) (as : List α) (s : σ) :
    noteEach f as s = ⟨(), as.map fun a => .noted (f a), s⟩ := by
  induction as with
  | nil => rfl
  | cons a as ih =>
      rw [noteEach, bind_apply, note_apply, ih]
      rfl

end Action

/-! ## The parts of an iteration -/

namespace Repinning

variable {σ : Type} {host : Host σ} {settle : Span} {s s' : σ} {failure : Failure}

theorem restart_of_error (h : host.restart s = (.error failure, s')) :
    restart host settle s = ⟨.error failure, [.restarted (.error failure)], s'⟩ := by
  rw [restart, Action.bind_apply, Host.doRestart, Action.ask_apply h]
  rfl

theorem restart_of_ok (h : host.restart s = (.ok (), s')) :
    restart host settle s =
      ⟨.ok (), [.restarted (.ok ()), .slept settle], host.sleep settle s'⟩ := by
  rw [restart, Action.bind_apply, Host.doRestart, Action.ask_apply h]
  rfl

end Repinning

namespace Monitor

variable {σ : Type} (host : Host σ)

/-- A scan succeeded with some rows, and merging it left a refreshed registry behind. -/
def Swept (m : Monitor) (s : σ) (rows : List Observation) (sweep : Trace σ Refresh) : Prop :=
  ∃ s₁, host.scan s = (.ok rows, s₁)
    ∧ m.registry.refresh (Latency.measure host m.settings.pingCount) rows s₁ = sweep

/-- A monitor with a refreshed registry. -/
def withSweep (m : Monitor) (sweep : Trace σ Refresh) : Monitor :=
  { m with registry := sweep.value.registry }

@[simp] theorem withSweep_dryRun (m : Monitor) (sweep : Trace σ Refresh) :
    (m.withSweep sweep).dryRun = m.dryRun := rfl

/-- A monitor that pinned the profile to a BSSID. -/
def withPin (m : Monitor) (bssid : String) : Monitor :=
  { m with lastPinned := some bssid, reportNews := true }

/-- A monitor that has nothing new to report. -/
def withoutNews (m : Monitor) : Monitor :=
  { m with reportNews := false }

/-- The events of taking a scan and merging it. -/
def sweepEvents (m : Monitor) (rows : List Observation) (sweep : Trace σ Refresh) : List Event :=
  .scanned (.ok rows) :: .noted (.scanned rows.length) ::
    (Action.noticed (m.learnedNotice? rows) ++ sweep.events
      ++ Action.noticed (droppedNotice? sweep.value))

/-- The events of reporting the active link and judging the candidates. -/
def judgeEvents (m : Monitor) (link : AccessPoint) : List Event :=
  Action.noticed (m.pinNotice? link) ++ .noted (.currentLink m.reportNews link) ::
    m.registry.candidates.map fun c => .noted (m.judgement link c)

/-- The best candidate of a monitor's registry against a link. -/
def choice? (m : Monitor) (link : AccessPoint) : Option Choice :=
  Choice.best m.settings.qualityPenalty link m.registry.candidates

theorem absorb_apply (m : Monitor) (rows : List Observation) (s : σ) :
    m.absorb host rows s =
      ⟨m.withSweep (m.registry.refresh (Latency.measure host m.settings.pingCount) rows s),
        Action.noticed (m.learnedNotice? rows)
          ++ (m.registry.refresh (Latency.measure host m.settings.pingCount) rows s).events
          ++ Action.noticed (droppedNotice?
              (m.registry.refresh (Latency.measure host m.settings.pingCount) rows s).value),
        (m.registry.refresh (Latency.measure host m.settings.pingCount) rows s).state⟩ := by
  simp only [absorb, Action.bind_apply, Action.noteAny_apply, Action.pure_apply, List.append_nil,
    List.append_assoc]
  rfl

theorem report_apply (m : Monitor) (link : AccessPoint) (s : σ) :
    m.report link s =
      ⟨(), Action.noticed (m.pinNotice? link) ++ [.noted (.currentLink m.reportNews link)], s⟩ := by
  rw [report, Action.bind_apply, Action.noteAny_apply]
  rfl

variable {host} {m : Monitor} {s s₁ s₂ s₃ : σ} {link : AccessPoint} {choice : Choice}
  {failure : Failure}

theorem switchTo_of_pin_error
    (hpin : host.pin (some choice.entry.bssid) s = (.error failure, s₁)) :
    m.switchTo host link choice s =
      ⟨(.error failure, m), [.pinned (some choice.entry.bssid) (.error failure)], s₁⟩ := by
  rw [switchTo, Repinning.pin, Host.setPin, Action.bind_apply, Action.ask_apply hpin]
  rfl

theorem switchTo_of_restart_error
    (hpin : host.pin (some choice.entry.bssid) s = (.ok (), s₁))
    (hrestart : host.restart s₁ = (.error failure, s₂)) :
    m.switchTo host link choice s =
      ⟨(.error failure, m.withPin choice.entry.bssid),
        [.pinned (some choice.entry.bssid) (.ok ()), .restarted (.error failure),
          .noted (.restartFailed choice.entry.bssid failure)], s₂⟩ := by
  rw [switchTo, Repinning.pin, Host.setPin, Action.bind_apply, Action.ask_apply hpin]
  simp only [Action.bind_apply, Repinning.restart_of_error hrestart]
  rfl

theorem switchTo_of_ok
    (hpin : host.pin (some choice.entry.bssid) s = (.ok (), s₁))
    (hrestart : host.restart s₁ = (.ok (), s₂)) :
    m.switchTo host link choice s =
      ⟨(.ok (.switched link.bssid choice.entry.bssid choice.score),
          m.withPin choice.entry.bssid),
        [.pinned (some choice.entry.bssid) (.ok ()), .restarted (.ok ()), .slept m.settle],
        host.sleep m.settle s₂⟩ := by
  rw [switchTo, Repinning.pin, Host.setPin, Action.bind_apply, Action.ask_apply hpin]
  simp only [Action.bind_apply, settle, Repinning.restart_of_ok hrestart]
  rfl

/-! ## The seven ways -/

/-- The ways an iteration of a monitor can end. -/
inductive Iteration (host : Host σ) (m : Monitor) (s : σ) :
    Trace σ (Except Failure Decision × Monitor) → Prop where
  | scanFailed {failure : Failure} {s₁ : σ} (hscan : host.scan s = (.error failure, s₁)) :
      Iteration host m s ⟨(.error failure, m), [.scanned (.error failure)], s₁⟩
  /-- No link of the roaming network is in use. -/
  | unassociated {rows : List Observation} {sweep : Trace σ Refresh} {failure : Failure}
      (hswept : m.Swept host s rows sweep)
      (hactive : (m.withSweep sweep).registry.active = .error failure) :
      Iteration host m s
        ⟨(.error failure, m.withSweep sweep), m.sweepEvents rows sweep, sweep.state⟩
  /-- No candidate beats the active link. -/
  | stayed {rows : List Observation} {sweep : Trace σ Refresh} {link : AccessPoint}
      (hswept : m.Swept host s rows sweep)
      (hactive : (m.withSweep sweep).registry.active = .ok link)
      (hchoice : (m.withSweep sweep).choice? link = none) :
      Iteration host m s
        ⟨(.ok (.stayed link.bssid), (m.withSweep sweep).withoutNews),
          m.sweepEvents rows sweep ++ (m.withSweep sweep).judgeEvents link, sweep.state⟩
  /-- A candidate beats the active link in a dry run. -/
  | wouldSwitch {rows : List Observation} {sweep : Trace σ Refresh} {link : AccessPoint}
      {choice : Choice} (hswept : m.Swept host s rows sweep)
      (hactive : (m.withSweep sweep).registry.active = .ok link)
      (hchoice : (m.withSweep sweep).choice? link = some choice) (hdry : m.dryRun = true) :
      Iteration host m s
        ⟨(.ok (.wouldSwitch link.bssid choice.entry.bssid choice.score),
            (m.withSweep sweep).withoutNews),
          m.sweepEvents rows sweep ++ (m.withSweep sweep).judgeEvents link
            ++ [.noted (.switching link.bssid choice m.dryRun)],
          sweep.state⟩
  /-- A candidate beats the active link, and pinning the profile to it failed. -/
  | pinFailed {rows : List Observation} {sweep : Trace σ Refresh} {link : AccessPoint}
      {choice : Choice} {failure : Failure} {s₂ : σ} (hswept : m.Swept host s rows sweep)
      (hactive : (m.withSweep sweep).registry.active = .ok link)
      (hchoice : (m.withSweep sweep).choice? link = some choice) (hdry : m.dryRun = false)
      (hpin : host.pin (some choice.entry.bssid) sweep.state = (.error failure, s₂)) :
      Iteration host m s
        ⟨(.error failure, m.withSweep sweep),
          m.sweepEvents rows sweep ++ (m.withSweep sweep).judgeEvents link
            ++ [.noted (.switching link.bssid choice m.dryRun),
              .pinned (some choice.entry.bssid) (.error failure)],
          s₂⟩
  /-- The profile was pinned to a candidate, and the restart of the network failed. -/
  | restartFailed {rows : List Observation} {sweep : Trace σ Refresh} {link : AccessPoint}
      {choice : Choice} {failure : Failure} {s₂ s₃ : σ} (hswept : m.Swept host s rows sweep)
      (hactive : (m.withSweep sweep).registry.active = .ok link)
      (hchoice : (m.withSweep sweep).choice? link = some choice) (hdry : m.dryRun = false)
      (hpin : host.pin (some choice.entry.bssid) sweep.state = (.ok (), s₂))
      (hrestart : host.restart s₂ = (.error failure, s₃)) :
      Iteration host m s
        ⟨(.error failure, (m.withSweep sweep).withPin choice.entry.bssid),
          m.sweepEvents rows sweep ++ (m.withSweep sweep).judgeEvents link
            ++ [.noted (.switching link.bssid choice m.dryRun),
              .pinned (some choice.entry.bssid) (.ok ()), .restarted (.error failure),
              .noted (.restartFailed choice.entry.bssid failure)],
          s₃⟩
  /-- The profile was pinned to a candidate and the network restarted. -/
  | switched {rows : List Observation} {sweep : Trace σ Refresh} {link : AccessPoint}
      {choice : Choice} {s₂ s₃ : σ} (hswept : m.Swept host s rows sweep)
      (hactive : (m.withSweep sweep).registry.active = .ok link)
      (hchoice : (m.withSweep sweep).choice? link = some choice) (hdry : m.dryRun = false)
      (hpin : host.pin (some choice.entry.bssid) sweep.state = (.ok (), s₂))
      (hrestart : host.restart s₂ = (.ok (), s₃)) :
      Iteration host m s
        ⟨(.ok (.switched link.bssid choice.entry.bssid choice.score),
            (m.withSweep sweep).withPin choice.entry.bssid),
          m.sweepEvents rows sweep ++ (m.withSweep sweep).judgeEvents link
            ++ [.noted (.switching link.bssid choice m.dryRun),
              .pinned (some choice.entry.bssid) (.ok ()), .restarted (.ok ()), .slept m.settle],
          host.sleep m.settle s₃⟩

/-! ### From the code to the ways and back -/

theorem tick_of_scan_error (hscan : host.scan s = (.error failure, s₁)) :
    m.tick host s = ⟨(.error failure, m), [.scanned (.error failure)], s₁⟩ := by
  rw [tick, Action.bind_apply, Host.takeScan, Action.ask_apply hscan]
  rfl

/-- What is left of an iteration once its scan is merged. -/
def afterSweep (host : Host σ) (m : Monitor) : Action σ (Except Failure Decision × Monitor) :=
  match m.registry.active with
  | .error failure => pure (.error failure, m)
  | .ok link => m.decideOn host link

theorem tick_of_swept {rows : List Observation} {sweep : Trace σ Refresh}
    (hswept : m.Swept host s rows sweep) :
    m.tick host s =
      let rest := (m.withSweep sweep).afterSweep host sweep.state
      ⟨rest.value, m.sweepEvents rows sweep ++ rest.events, rest.state⟩ := by
  obtain ⟨s₁, hscan, rfl⟩ := hswept
  rw [tick, Action.bind_apply, Host.takeScan, Action.ask_apply hscan]
  simp only [Action.bind_apply, Action.note_apply, absorb_apply, sweepEvents, List.cons_append,
    List.nil_append, List.append_assoc]
  rfl

/-- A decision on a link follows its report and the judging of the candidates. -/
theorem decideOn_of_none (hchoice : m.choice? link = none) :
    m.decideOn host link s =
      ⟨(.ok (.stayed link.bssid), m.withoutNews), m.judgeEvents link, s⟩ := by
  rw [choice?] at hchoice
  simp only [decideOn, Action.bind_apply, report_apply, Action.noteEach_apply, hchoice,
    Action.pure_apply, judgeEvents, List.append_nil, List.append_assoc]
  rfl

theorem decideOn_of_dry (hchoice : m.choice? link = some choice) (hdry : m.dryRun = true) :
    m.decideOn host link s =
      ⟨(.ok (.wouldSwitch link.bssid choice.entry.bssid choice.score), m.withoutNews),
        m.judgeEvents link ++ [.noted (.switching link.bssid choice m.dryRun)], s⟩ := by
  rw [choice?] at hchoice
  simp only [decideOn, Action.bind_apply, report_apply, Action.noteEach_apply, hchoice,
    if_pos hdry, Action.note_apply, Action.pure_apply, judgeEvents, List.append_assoc]
  rfl

theorem decideOn_of_wet (hchoice : m.choice? link = some choice) (hdry : m.dryRun = false) :
    m.decideOn host link s =
      let rest := m.switchTo host link choice s
      ⟨rest.value, m.judgeEvents link ++ .noted (.switching link.bssid choice m.dryRun) ::
        rest.events, rest.state⟩ := by
  rw [choice?] at hchoice
  simp only [decideOn, Action.bind_apply, report_apply, Action.noteEach_apply, hchoice, hdry,
    Bool.false_eq_true, if_false, Action.note_apply, judgeEvents, List.append_assoc]
  rfl

theorem Iteration.tick_eq {t : Trace σ (Except Failure Decision × Monitor)}
    (h : Iteration host m s t) : m.tick host s = t := by
  cases h with
  | scanFailed hscan => exact tick_of_scan_error hscan
  | unassociated hswept hactive =>
      rw [tick_of_swept hswept, afterSweep, hactive]
      simp only [Action.pure_apply, List.append_nil]
  | stayed hswept hactive hchoice =>
      rw [tick_of_swept hswept, afterSweep, hactive]
      simp only [decideOn_of_none hchoice]
  | wouldSwitch hswept hactive hchoice hdry =>
      rw [tick_of_swept hswept, afterSweep, hactive]
      simp only [decideOn_of_dry hchoice hdry, withSweep_dryRun, List.append_assoc]
  | pinFailed hswept hactive hchoice hdry hpin =>
      rw [tick_of_swept hswept, afterSweep, hactive]
      simp only [decideOn_of_wet hchoice hdry, switchTo_of_pin_error hpin, withSweep_dryRun,
        List.append_assoc]
  | restartFailed hswept hactive hchoice hdry hpin hrestart =>
      rw [tick_of_swept hswept, afterSweep, hactive]
      simp only [decideOn_of_wet hchoice hdry, switchTo_of_restart_error hpin hrestart,
        withSweep_dryRun, List.append_assoc]
  | switched hswept hactive hchoice hdry hpin hrestart =>
      rw [tick_of_swept hswept, afterSweep, hactive]
      simp only [decideOn_of_wet hchoice hdry, switchTo_of_ok hpin hrestart, List.append_assoc]
      rfl

/-- Every iteration ends in one of the seven ways. -/
theorem exists_iteration (host : Host σ) (m : Monitor) (s : σ) : ∃ t, Iteration host m s t := by
  rcases hscan : host.scan s with ⟨failure | rows, s₁⟩
  · exact ⟨_, .scanFailed hscan⟩
  · have hswept : m.Swept host s rows _ := ⟨s₁, hscan, rfl⟩
    cases hactive : (m.withSweep _).registry.active with
    | error failure => exact ⟨_, .unassociated hswept hactive⟩
    | ok link =>
        cases hchoice : (m.withSweep _).choice? link with
        | none => exact ⟨_, .stayed hswept hactive hchoice⟩
        | some choice =>
            cases hdry : m.dryRun with
            | true => exact ⟨_, .wouldSwitch hswept hactive hchoice hdry⟩
            | false =>
                rcases hpin : host.pin (some choice.entry.bssid) _ with ⟨failure | _, s₂⟩
                · exact ⟨_, .pinFailed hswept hactive hchoice hdry hpin⟩
                · rcases hrestart : host.restart s₂ with ⟨failure | _, s₃⟩
                  · exact ⟨_, .restartFailed hswept hactive hchoice hdry hpin hrestart⟩
                  · exact ⟨_, .switched hswept hactive hchoice hdry hpin hrestart⟩

/-- **The ways of an iteration are what an iteration does**, neither more nor less. -/
theorem iteration_iff {t : Trace σ (Except Failure Decision × Monitor)} :
    Iteration host m s t ↔ m.tick host s = t := by
  constructor
  · intro h
    exact h.tick_eq
  · rintro rfl
    obtain ⟨t, ht⟩ := exists_iteration host m s
    rw [ht.tick_eq]
    exact ht

/-! ### What an iteration leaves alone -/

theorem settings_tick (m : Monitor) (s : σ) :
    (m.tick host s).value.2.settings = m.settings := by
  obtain ⟨t, ht⟩ := exists_iteration host m s
  rw [ht.tick_eq]
  cases ht <;> rfl

end Monitor

end Roaming
