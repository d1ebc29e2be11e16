import Roaming.Agent
import Roaming.Proofs.Course
import Roaming.Proofs.Protocol

/-!
# What the agent outlives

A host on which every failure of a scan, a pin or a restart is transient (`Host.Recovers`) cannot
stop a monitor once it has started: every step answers a cadence, so a run fails exactly if its
start does, and so does a start with one step.

The command-line tools are such a host, since a tool can only refuse to start or end without
success, and both may pass. What is left are the ways in which a start fails, and these are ways in
which three commands end (`NetworkManager.start_fails_iff`). The main statement is
`agent_outlives_tool_failures`.
-/

namespace Roaming

/-! ## Hosts that recover -/

/-- Whatever keeps an iteration from its scan, its pin or its restart may be gone the next time. -/
structure Host.Recovers {σ : Type} (host : Host σ) : Prop where
  scan : ∀ {s failure}, (host.scan s).1 = .error failure → failure.isTransient = true
  pin : ∀ {bssid s failure}, (host.pin bssid s).1 = .error failure → failure.isTransient = true
  restart : ∀ {s failure}, (host.restart s).1 = .error failure → failure.isTransient = true

namespace Monitor

variable {σ : Type} {host : Host σ} {m : Monitor} {s : σ} {limit : Nat} {failure : Failure}

theorem Iteration.isTransient {t : Trace σ (Except Failure Decision × Monitor)}
    (h : Iteration host m s t) (hhost : host.Recovers) (hfailed : t.value.1 = .error failure) :
    failure.isTransient = true := by
  cases h with
  | scanFailed hscan =>
      obtain rfl := Except.error.inj hfailed
      exact hhost.scan (congrArg Prod.fst hscan)
  | unassociated hswept hactive =>
      obtain rfl := Except.error.inj hfailed
      rw [(Registry.active_eq_error_iff.1 hactive).2]
      rfl
  | stayed | wouldSwitch | switched => exact nomatch hfailed
  | pinFailed hswept hactive hchoice hdry hpin =>
      obtain rfl := Except.error.inj hfailed
      exact hhost.pin (congrArg Prod.fst hpin)
  | restartFailed hswept hactive hchoice hdry hpin hrestart =>
      obtain rfl := Except.error.inj hfailed
      exact hhost.restart (congrArg Prod.fst hrestart)

/-- On a host that recovers a step never fails. -/
theorem exists_cadence_step (hhost : host.Recovers) (m : Monitor) (s : σ) :
    ∃ cadence, (m.step host s).value.1 = .ok cadence := by
  have hiteration : Iteration host m s (m.tick host s) := iteration_iff.2 rfl
  rw [step_apply]
  show ∃ cadence, (answer (m.tick host s).value.1 _).value = .ok cadence
  cases houtcome : (m.tick host s).value.1 with
  | error failure =>
      exact ⟨.long, value_answer_of_transient (hiteration.isTransient hhost houtcome) _⟩
  | ok decision => exact ⟨decision.cadence, value_answer_ok decision _⟩

/-- On a host that recovers a loop never fails. -/
theorem loop_ne_error (hhost : host.Recovers) :
    (m.loop host limit s).value.1 ≠ some (.error failure) := by
  obtain ⟨t, ht⟩ := exists_looping host limit m s
  rw [ht.loop_eq]
  intro hfailed
  cases ht with
  | ended hpaced hlimit hclosing =>
      cases hclosing with
      | calledOff | calledOffInStep => exact nomatch hfailed
      | failed hwanted hstep =>
          obtain ⟨cadence, hcadence⟩ := exists_cadence_step hhost _ _
          rw [hstep] at hcadence
          exact nomatch hcadence
  | ongoing hpaced => exact nomatch hfailed

/-- On a host that recovers a run fails exactly if its start does. -/
theorem run_eq_error_iff (hhost : host.Recovers) :
    (m.run host limit s).value.1 = some (.error failure)
      ↔ (m.start host s).value.1 = .error failure := by
  rcases start_cases host m s with
    ⟨_, _, _, _, hstart⟩ | ⟨_, _, _, hstart, -⟩ | ⟨_, _, _, hstart⟩
  · rw [run_of_error hstart, hstart]
    simp
  · rw [run_of_unavailable hstart, hstart]
    simp
  · rw [run_of_monitoring hstart, hstart]
    constructor
    · intro hfailed
      exact absurd hfailed (loop_ne_error hhost)
    · intro hfailed
      exact nomatch hfailed

/-- On a host that recovers a start with one step fails exactly if the start does. -/
theorem runOnce_eq_error_iff (hhost : host.Recovers) :
    (m.runOnce host s).value.1 = .error failure
      ↔ (m.start host s).value.1 = .error failure := by
  rcases start_cases host m s with
    ⟨_, _, _, _, hstart⟩ | ⟨_, _, _, hstart, -⟩ | ⟨m', _, s', hstart⟩
  · rw [runOnce_of_error hstart, hstart]
    simp
  · rw [runOnce_of_unavailable hstart, hstart]
    simp
  · obtain ⟨cadence, hcadence⟩ := exists_cadence_step hhost m' s'
    rw [runOnce_of_monitoring hstart, hstart]
    show (m'.step host s').value.1.map _ = _ ↔ _
    rw [hcadence]
    simp [Except.map]

/-- What of a start can fail: asking for the profile, or clearing its pin and restarting. -/
theorem start_fails_iff :
    (∃ failure, (m.start host s).value.1 = .error failure) ↔
      (∃ failure, (host.isAvailable s).1 = .error failure)
        ∨ (host.isAvailable s).1 = .ok true ∧ m.dryRun = false
          ∧ ((∃ failure, (host.pin none (host.isAvailable s).2).1 = .error failure)
            ∨ ∃ failure, (host.restart (host.pin none (host.isAvailable s).2).2).1
              = .error failure) := by
  obtain ⟨t, ht⟩ := exists_startup host m s
  rw [ht.start_eq]
  cases ht with
  | unanswered hasked | unavailable hasked => simp [hasked]
  | leftAlone hasked hdry => simp [hasked, hdry]
  | unpinFailed hasked hdry hpin => simp [hasked, hdry, hpin]
  | restartFailed hasked hdry hpin hrestart | cleared hasked hdry hpin hrestart =>
      simp [hasked, hdry, hpin, hrestart]

end Monitor

/-! ## How commands end -/

namespace Toolbox

variable {τ : Type} (tools : Toolbox τ)

/-- A command ran to its end, and this is what it left. -/
def Leaves (c : Command) (s : τ) (o : Output) : Prop :=
  c.isSound = true ∧ (tools.execute c s).1 = .ok o

/-- A command cannot be started: its words cannot be handed over, or it is refused. -/
def CannotStart (c : Command) (s : τ) : Prop :=
  c.isSound = false ∨ ∃ cause, (tools.execute c s).1 = .error cause

/-- A command cannot be started, or it ends without success. -/
def Fails (c : Command) (s : τ) : Prop :=
  tools.CannotStart c s ∨ ∃ o, tools.Leaves c s o ∧ o.status ≠ .code 0

/-- The profile is shown with success, and its type is that of a wireless profile. -/
def ShowsWireless (profile : String) (s : τ) : Prop :=
  ∃ o, tools.Leaves (NetworkManager.showType profile) s o ∧ o.status = .code 0
    ∧ Text.trim o.text = NetworkManager.wirelessType

end Toolbox

namespace NetworkManager

variable {τ : Type} {tools : Toolbox τ} {profile : String} {c : Command} {s : τ} {o : Output}
  {failure : Failure}

theorem not_cannotStart_of_leaves (h : tools.Leaves c s o) : ¬ tools.CannotStart c s := by
  rintro (hunsound | ⟨cause, hrefused⟩)
  · exact nomatch h.1.symm.trans hunsound
  · exact nomatch h.2.symm.trans hrefused

theorem leaves_unique {o' : Output} (h : tools.Leaves c s o) (h' : tools.Leaves c s o') : o = o' :=
  Except.ok.inj (h.2.symm.trans h'.2)

/-- The ways in which a command that has to succeed ends, and what it is answered with. -/
inductive Answered (tools : Toolbox τ) (c : Command) (s : τ) : Except Failure String → Prop where
  | refused {cause : SystemError} (hrefused : tools.CannotStart c s) :
      Answered tools c s (.error (.notStarted c.program cause))
  | failed {o : Output} (ho : tools.Leaves c s o) (hfailed : o.status ≠ .code 0) :
      Answered tools c s (.error (.toolFailed c.program o.status
        (Text.trim (Text.Utf8.decodeLossy o.stderr))))
  | succeeded {o : Output} (ho : tools.Leaves c s o) (hsuccess : o.status = .code 0) :
      Answered tools c s (.ok o.text)

theorem answered_executeForText (tools : Toolbox τ) (c : Command) (s : τ) :
    Answered tools c s (executeForText tools c s).1 := by
  rw [executeForText, execute]
  cases hsound : c.isSound with
  | false => exact .refused (.inl hsound)
  | true =>
      rw [if_pos rfl]
      show Answered tools c s (((tools.execute c s).1.mapError _).bind _)
      cases hresult : (tools.execute c s).1 with
      | error cause => exact .refused (.inr ⟨cause, hresult⟩)
      | ok o =>
          have ho : tools.Leaves c s o := ⟨hsound, hresult⟩
          show Answered tools c s (o.textOrFailure c.program)
          rw [Output.textOrFailure]
          by_cases hsuccess : o.status = .code 0
          · rw [if_pos (ExitStatus.isSuccess_iff.2 hsuccess)]
            exact .succeeded ho hsuccess
          · rw [if_neg (mt ExitStatus.isSuccess_iff.1 hsuccess)]
            exact .failed ho hsuccess

/-- A command that has to succeed is answered by a failure exactly if it fails. -/
theorem executeForText_fails_iff :
    (∃ failure, (executeForText tools c s).1 = .error failure) ↔ tools.Fails c s := by
  have hanswered := answered_executeForText tools c s
  generalize (executeForText tools c s).1 = answer at hanswered ⊢
  cases hanswered with
  | refused hrefused => exact iff_of_true ⟨_, rfl⟩ (.inl hrefused)
  | failed ho hfailed => exact iff_of_true ⟨_, rfl⟩ (.inr ⟨_, ho, hfailed⟩)
  | succeeded ho hsuccess =>
      refine iff_of_false (fun ⟨_, herror⟩ => nomatch herror) ?_
      rintro (hrefused | ⟨o', ho', hfailed⟩)
      · exact not_cannotStart_of_leaves ho hrefused
      · rw [leaves_unique ho' ho] at hfailed
        exact hfailed hsuccess

/-- Whatever a tool does, its failure may pass. -/
theorem isTransient_of_executeForText (h : (executeForText tools c s).1 = .error failure) :
    failure.isTransient = true := by
  have hanswered := answered_executeForText tools c s
  rw [h] at hanswered
  cases hanswered <;> rfl

/-- A failure behind a reading of a command's text is the failure of the command. -/
theorem map_eq_error_iff {α β : Type} {f : α → β} {x : Except Failure α} :
    x.map f = .error failure ↔ x = .error failure := by
  cases x <;> simp [Except.map]

/-- **A host of command-line tools recovers**, whatever the tools do. -/
theorem recovers_host (tools : Toolbox τ) (profile : String) : (host tools profile).Recovers where
  scan {s} {failure} h := by
    have hfailed : (executeForText tools listAccessPoints s).1 = .error failure :=
      map_eq_error_iff.1 h
    exact isTransient_of_executeForText hfailed
  pin {bssid} {s} {failure} h := by
    have hfailed : (executeForText tools (modifyPin profile bssid) s).1 = .error failure :=
      map_eq_error_iff.1 h
    exact isTransient_of_executeForText hfailed
  restart {s} {failure} h := by
    have hfailed : (executeForText tools restartService s).1 = .error failure :=
      map_eq_error_iff.1 h
    exact isTransient_of_executeForText hfailed

/-! ## The ways in which a start fails -/

/-- The profile cannot be asked for exactly if its command cannot be started. -/
theorem isAvailable_fails_iff :
    (∃ failure, ((host tools profile).isAvailable s).1 = .error failure)
      ↔ tools.CannotStart (showType profile) s := by
  show (∃ failure, availabilityOf (executeForText tools (showType profile) s).1
    = .error failure) ↔ _
  have hanswered := answered_executeForText tools (showType profile) s
  generalize (executeForText tools (showType profile) s).1 = answer at hanswered ⊢
  cases hanswered with
  | refused hrefused => exact iff_of_true ⟨_, rfl⟩ hrefused
  | failed ho | succeeded ho =>
      exact iff_of_false (fun ⟨_, herror⟩ => nomatch herror) (not_cannotStart_of_leaves ho)

theorem isAvailable_iff :
    ((host tools profile).isAvailable s).1 = .ok true ↔ tools.ShowsWireless profile s := by
  show availabilityOf (executeForText tools (showType profile) s).1 = .ok true ↔ _
  have hanswered := answered_executeForText tools (showType profile) s
  generalize (executeForText tools (showType profile) s).1 = answer at hanswered ⊢
  cases hanswered with
  | refused hrefused =>
      refine iff_of_false (fun h => nomatch h) ?_
      rintro ⟨o, ho, -⟩
      exact not_cannotStart_of_leaves ho hrefused
  | failed ho hfailed =>
      refine iff_of_false (fun h => nomatch h) ?_
      rintro ⟨o', ho', hsuccess, -⟩
      rw [leaves_unique ho' ho] at hsuccess
      exact hfailed hsuccess
  | succeeded ho hsuccess =>
      constructor
      · intro h
        exact ⟨_, ho, hsuccess, beq_iff_eq.1 (Except.ok.inj h)⟩
      · rintro ⟨o', ho', -, htype⟩
        rw [leaves_unique ho' ho] at htype
        rw [availabilityOf, htype]
        rfl

/-- A profile that cannot be shown is not there. -/
theorem isAvailable_of_failed (ho : tools.Leaves (showType profile) s o)
    (hfailed : o.status ≠ .code 0) :
    (host tools profile).isAvailable s = (.ok false, (execute tools (showType profile) s).2) := by
  refine Prod.ext ?_ rfl
  show availabilityOf (executeForText tools (showType profile) s).1 = _
  have hanswered := answered_executeForText tools (showType profile) s
  generalize (executeForText tools (showType profile) s).1 = answer at hanswered ⊢
  cases hanswered with
  | refused hrefused => exact absurd hrefused (not_cannotStart_of_leaves ho)
  | failed => rfl
  | succeeded ho' hsuccess =>
      rw [leaves_unique ho' ho] at hsuccess
      exact absurd hsuccess hfailed

theorem pin_fails_iff {bssid : Option String} :
    (∃ failure, ((host tools profile).pin bssid s).1 = .error failure)
      ↔ tools.Fails (modifyPin profile bssid) s := by
  rw [← executeForText_fails_iff]
  exact exists_congr fun failure => map_eq_error_iff

theorem restart_fails_iff :
    (∃ failure, ((host tools profile).restart s).1 = .error failure)
      ↔ tools.Fails restartService s := by
  rw [← executeForText_fails_iff]
  exact exists_congr fun failure => map_eq_error_iff

/-- **The ways in which a start fails**: the profile cannot be asked for, or it is wireless, this is
no dry run, and clearing its pin or restarting the network fails. -/
theorem start_fails_iff (m : Monitor) :
    let asked := (execute tools (showType profile) s).2
    let unpinned := (execute tools (modifyPin profile none) asked).2
    (∃ failure, (m.start (host tools profile) s).value.1 = .error failure) ↔
      tools.CannotStart (showType profile) s
        ∨ tools.ShowsWireless profile s ∧ m.dryRun = false
          ∧ (tools.Fails (modifyPin profile none) asked ∨ tools.Fails restartService unpinned) := by
  intro asked unpinned
  rw [Monitor.start_fails_iff, isAvailable_fails_iff, isAvailable_iff, pin_fails_iff,
    restart_fails_iff]
  exact Iff.rfl

/-- If the profile cannot be shown, a run succeeds with no other command. -/
theorem unavailable_of_failed (m : Monitor) (log : List Command)
    (ho : tools.Leaves (showType profile) s o) (hfailed : o.status ≠ .code 0) :
    let host := host tools.logged profile
    let started := m.start host (log, s)
    started.value = (.ok .unavailable, { m with phase := .unavailable })
      ∧ started.state.1 = log ++ [showType profile]
      ∧ (∀ limit, (m.run host limit (log, s)).value = (some (.ok ()), started.value.2)
        ∧ (m.run host limit (log, s)).state = started.state)
      ∧ (m.runOnce host (log, s)).value = (.ok (), started.value.2)
      ∧ (m.runOnce host (log, s)).state = started.state := by
  intro host started
  have hlogged : tools.logged.Leaves (showType profile) (log, s) o := ho
  have hlog : (execute tools.logged (showType profile) (log, s)).2.1
      = log ++ [showType profile] := by
    rw [log_execute, List.filter_cons_of_pos ho.1]
    rfl
  have hstart : started = _ :=
    (Monitor.Startup.unavailable (isAvailable_of_failed hlogged hfailed)).start_eq
  rw [hstart]
  refine ⟨rfl, hlog, ?_, ?_, ?_⟩
  · intro limit
    rw [Monitor.run_of_unavailable hstart]
    exact ⟨rfl, rfl⟩
  · rw [Monitor.runOnce_of_unavailable hstart]
  · rw [Monitor.runOnce_of_unavailable hstart]

end NetworkManager

/-! ## The agent -/

namespace Agent

variable {τ : Type} {tools : Toolbox τ} {limit : Nat} {disk : Disk} {words : List String}
  {options : Options} {settings : Settings} {failure : AgentFailure} {s : τ}

theorem run_of_settings_error (hwords : Request.ofWords words = .ok (.run options))
    (hsettings : loadSettings disk options = .error failure) :
    run tools limit disk words s = ⟨.failed failure, [], s⟩ := by
  simp only [run, hwords, hsettings]
  rfl

theorem run_of_settings_ok (hwords : Request.ofWords words = .ok (.run options))
    (hsettings : loadSettings disk options = .ok settings) :
    run tools limit disk words = monitor tools limit settings options := by
  simp only [run, hwords, hsettings]

theorem endingOf_eq_failed_iff {outcome : Except Failure Unit} :
    endingOf outcome = .failed failure
      ↔ ∃ cause, failure = .monitor cause ∧ outcome = .error cause := by
  cases outcome with
  | error cause =>
      constructor
      · intro h
        exact ⟨cause, (Ending.failed.inj h).symm, rfl⟩
      · rintro ⟨cause, rfl, h⟩
        obtain rfl := Except.error.inj h
        rfl
  | ok =>
      constructor
      · intro h
        exact nomatch h
      · rintro ⟨cause, -, h⟩
        exact nomatch h

theorem getD_map_endingOf_eq_failed_iff {ran : Option (Except Failure Unit)} :
    (ran.map endingOf).getD .unfinished = .failed failure
      ↔ ∃ cause, failure = .monitor cause ∧ ran = some (.error cause) := by
  cases ran with
  | none => simp
  | some outcome =>
      show endingOf outcome = _ ↔ _
      rw [endingOf_eq_failed_iff]
      simp only [Option.some.injEq]

/-- With sound settings the agent fails exactly if the start of its monitor does. -/
theorem monitor_failed_iff :
    (monitor tools limit settings options s).value = .failed failure
      ↔ ∃ cause, failure = .monitor cause
        ∧ ((Monitor.new settings options.dryRun).start
            (NetworkManager.host tools settings.profile) s).value.1 = .error cause := by
  have hrecovers := NetworkManager.recovers_host tools settings.profile
  cases honce : options.once with
  | true =>
      rw [monitor, honce]
      show endingOf _ = _ ↔ _
      rw [endingOf_eq_failed_iff]
      exact exists_congr fun cause => and_congr_right fun _ =>
        Monitor.runOnce_eq_error_iff hrecovers
  | false =>
      rw [monitor, honce]
      show (Option.map endingOf _).getD _ = _ ↔ _
      rw [getD_map_endingOf_eq_failed_iff]
      exact exists_congr fun cause => and_congr_right fun _ =>
        Monitor.run_eq_error_iff hrecovers

/-- **No failure of a tool ends the agent once it has started.** On the command-line tools no step
fails, so a run fails exactly if its start does, and a start fails in a few ways only. A profile
that cannot be shown ends the run with success and no other command; refused settings end it before
any command. -/
theorem agent_outlives_tool_failures {τ : Type} (tools : Toolbox τ) :
    (∀ (profile : String) (m : Monitor) (s : τ),
      let host := NetworkManager.host tools profile
      let asked := (NetworkManager.execute tools (NetworkManager.showType profile) s).2
      let unpinned := (NetworkManager.execute tools (NetworkManager.modifyPin profile none) asked).2
      (∃ cadence, (m.step host s).value.1 = .ok cadence)
        ∧ (∀ limit failure, (m.run host limit s).value.1 = some (.error failure)
          ↔ (m.start host s).value.1 = .error failure)
        ∧ (∀ failure, (m.runOnce host s).value.1 = .error failure
          ↔ (m.start host s).value.1 = .error failure)
        ∧ ((∃ failure, (m.start host s).value.1 = .error failure) ↔
          tools.CannotStart (NetworkManager.showType profile) s
            ∨ tools.ShowsWireless profile s ∧ m.dryRun = false
              ∧ (tools.Fails (NetworkManager.modifyPin profile none) asked
                ∨ tools.Fails NetworkManager.restartService unpinned)))
      ∧ (∀ (profile : String) (m : Monitor) (log : List Command) (s : τ) (o : Output),
        tools.Leaves (NetworkManager.showType profile) s o → o.status ≠ .code 0 →
        let host := NetworkManager.host tools.logged profile
        let started := m.start host (log, s)
        started.value = (.ok .unavailable, { m with phase := .unavailable })
          ∧ started.state.1 = log ++ [NetworkManager.showType profile]
          ∧ (∀ limit, (m.run host limit (log, s)).value = (some (.ok ()), started.value.2)
            ∧ (m.run host limit (log, s)).state = started.state)
          ∧ (m.runOnce host (log, s)).value = (.ok (), started.value.2)
          ∧ (m.runOnce host (log, s)).state = started.state)
      ∧ ∀ (limit : Nat) (disk : Disk) (words : List String) (options : Options),
        Request.ofWords words = .ok (.run options) →
        (∀ failure, loadSettings disk options = .error failure → ∀ log s,
          run tools.logged limit disk words (log, s) = ⟨.failed failure, [], (log, s)⟩)
          ∧ ∀ settings, loadSettings disk options = .ok settings → ∀ s failure,
            (run tools limit disk words s).value = .failed failure ↔
              ∃ cause, failure = .monitor cause
                ∧ ((Monitor.new settings options.dryRun).start
                    (NetworkManager.host tools settings.profile) s).value.1 = .error cause := by
  refine ⟨?_, ?_, ?_⟩
  · intro profile m s host asked unpinned
    have hrecovers : host.Recovers := NetworkManager.recovers_host tools profile
    refine ⟨Monitor.exists_cadence_step hrecovers m s, ?_, ?_, NetworkManager.start_fails_iff m⟩
    · intro limit failure
      exact Monitor.run_eq_error_iff hrecovers
    · intro failure
      exact Monitor.runOnce_eq_error_iff hrecovers
  · intro profile m log s o ho hfailed
    exact NetworkManager.unavailable_of_failed m log ho hfailed
  · intro limit disk words options hwords
    refine ⟨?_, ?_⟩
    · intro failure hsettings log s
      exact run_of_settings_error hwords hsettings
    · intro settings hsettings s failure
      rw [run_of_settings_ok hwords hsettings]
      exact monitor_failed_iff

end Agent

end Roaming
