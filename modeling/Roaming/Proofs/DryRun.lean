import Roaming.Proofs.Commands
import Roaming.Proofs.Effects

/-!
# Dry runs are harmless and faithful

*Harmless*: a monitor in a dry run never pins and never restarts, whatever it is asked for and
whatever the host answers, and the only pauses it makes are those between two iterations. So on
the command-line tools it runs no command that changes anything.

*Faithful*: an iteration of a dry run looks at the same things as a real one, learns the same and
comes to the same decision (`agrees_tick`). The two part only after the choice of a candidate.
-/

namespace Roaming.Monitor

variable {σ : Type} {host : Host σ} {m : Monitor} {s : σ} {moves : List Move}

/-! ## Harmless -/

/-- A dry run that never pinned anything. -/
def Untouched (m : Monitor) : Prop :=
  m.dryRun = true ∧ m.lastPinned = none

theorem Untouched.start (h : m.Untouched) (s : σ) : (m.start host s).value.2.Untouched := by
  obtain ⟨phase, hphase⟩ := exists_phase_start host m s
  rw [hphase]
  exact h

theorem Untouched.tick (h : m.Untouched) (s : σ) : (m.tick host s).value.2.Untouched := by
  obtain ⟨t, ht⟩ := exists_iteration host m s
  rw [ht.tick_eq]
  cases ht with
  | scanFailed hscan | unassociated hswept | stayed hswept | wouldSwitch hswept => exact h
  | pinFailed hswept hactive hchoice hwet | restartFailed hswept hactive hchoice hwet
  | switched hswept hactive hchoice hwet => exact nomatch h.1.symm.trans hwet

theorem Untouched.makeAll (h : m.Untouched) : (m.makeAll host moves s).value.Untouched :=
  makeAll_keeps (fun _ s h => h.start s) (fun _ s h => h.tick s) h

/-- What acts on the machine in a dry run is a pause between two iterations. -/
theorem Untouched.isAct_moment (h : m.Untouched) {before after : List Event} {event : Event}
    (x : Moment host m s moves before event after) (hact : event.isAct = true) :
    ∃ cadence, x.move = .pause cadence ∧ event = .slept (m.interval cadence) := by
  have hnow : x.now.value.Untouched := h.makeAll
  have hmem := x.event_mem
  have hquiet : ∀ {events : List Event}, Event.Quiet events → event ∉ events := by
    intro events hquiet hmem
    exact nomatch (hquiet event hmem).symm.trans hact
  -- all but pauses are quiet in a dry run
  cases hmove : x.move with
  | start =>
      rw [hmove, make_start] at hmem
      exact absurd hmem (hquiet (quiet_start hnow.1 _))
  | tick =>
      rw [hmove, make_tick] at hmem
      exact absurd hmem (hquiet (quiet_tick hnow.1 _))
  | answer outcome =>
      rw [hmove, make_answer] at hmem
      exact absurd hmem (hquiet (quiet_answer outcome _))
  | pause cadence =>
      have hinterval : x.now.value.interval cadence = m.interval cadence :=
        interval_makeAll host m s x.past cadence
      rw [hmove, make_pause, hinterval] at hmem
      refine ⟨cadence, rfl, ?_⟩
      rcases List.mem_cons.1 hmem with rfl | hslept
      · exact nomatch hact
      · exact List.mem_singleton.1 hslept
  | stop =>
      rw [hmove, make_stop] at hmem
      rw [List.mem_singleton.1 hmem] at hact
      exact nomatch hact

/-- In any history of a dry run what acts on the machine is a pause between two iterations, and
nothing is remembered as pinned. -/
theorem Untouched.harmless (h : m.Untouched) (ops : List Operation) (s : σ) :
    (m.performAll host ops s).value.lastPinned = none
      ∧ ∀ before event after, event.isAct = true →
        (m.performAll host ops s).events = before ++ event :: after →
        ∃ x : Moment host m s (m.moves host s ops) before event after, ∃ cadence,
          x.move = .pause cadence ∧ event = .slept (m.interval cadence) := by
  rw [performAll_eq_makeAll]
  refine ⟨h.makeAll.2, ?_⟩
  intro before event after hact hevents
  obtain ⟨x⟩ := exists_moment hevents
  exact ⟨x, h.isAct_moment x hact⟩

/-- A history of a dry run neither pins nor restarts. -/
theorem Untouched.not_mem (h : m.Untouched) {ops : List Operation} {s : σ} {event : Event}
    (hact : event.isAct = true) (hslept : ∀ pause, event ≠ .slept pause) :
    event ∉ (m.performAll host ops s).events := by
  intro hmem
  obtain ⟨before, after, hevents⟩ := List.append_of_mem hmem
  obtain ⟨x, cadence, -, heq⟩ := (h.harmless ops s).2 before event after hact hevents
  exact hslept _ heq

/-- On the command-line tools a dry run runs no command that changes anything. -/
theorem Untouched.not_isChange {τ : Type} (tools : Toolbox τ) (profile : String)
    (h : m.Untouched) (ops : List Operation) (s : List Command × τ) :
    ∃ commands, (m.performAll (NetworkManager.host tools.logged profile) ops s).state.1
        = s.1 ++ commands
      ∧ ∀ c ∈ commands, c.isChange = false := by
  refine ⟨_, NetworkManager.log_performAll tools profile m ops s, ?_⟩
  intro c hc
  by_contra hchange
  rw [Bool.not_eq_false] at hchange
  obtain ⟨event, hmem, ⟨bssid, reply, rfl⟩ | ⟨reply, rfl⟩⟩ :=
    NetworkManager.exists_of_isChange profile hc hchange
  · exact h.not_mem rfl (by simp) hmem
  · exact h.not_mem rfl (by simp) hmem

/-! ## Faithful -/

/-- What a dry iteration and a real one have in common. -/
structure Agrees (dry wet : Trace σ (Except Failure Decision × Monitor)) : Prop where
  /-- They look at the same things and get the same replies. -/
  looks : dry.events.filter (·.isLook) = wet.events.filter (·.isLook)
  /-- They learn the same. -/
  registry : dry.value.2.registry = wet.value.2.registry
  /-- They stay alike. -/
  stayed : ∀ link, dry.value.1 = .ok (.stayed link) ↔ wet.value.1 = .ok (.stayed link)
  /-- The one names the access point that the other asks to be pinned. -/
  pinned : ∀ target, (∃ source score, dry.value.1 = .ok (.wouldSwitch source target score)) ↔
    ∃ reply, .pinned (some target) reply ∈ wet.events
  /-- If the other succeeds then it makes the switch that the one names. -/
  switched : ∀ source target score decision,
    dry.value.1 = .ok (.wouldSwitch source target score) → wet.value.1 = .ok decision →
    decision = .switched source target score
  /-- They fail alike before anything is pinned. -/
  failed : ∀ failure, dry.value.1 = .error failure ↔
    wet.value.1 = .error failure ∧ ∀ bssid reply, .pinned bssid reply ∉ wet.events

section Agreement

variable {dry wet : Trace σ (Except Failure Decision × Monitor)}

/-- Iterations that end alike before anything is chosen agree. -/
theorem agrees_of_quiet (houtcome : dry.value.1 = wet.value.1) (hevents : dry.events = wet.events)
    (hregistry : dry.value.2.registry = wet.value.2.registry) (hquiet : Event.Quiet wet.events)
    (hnone : ∀ source target score, wet.value.1 ≠ .ok (.wouldSwitch source target score)) :
    Agrees dry wet where
  looks := by rw [hevents]
  registry := hregistry
  stayed link := by rw [houtcome]
  pinned target := by
    rw [houtcome]
    constructor
    · rintro ⟨source, score, h⟩
      exact absurd h (hnone source target score)
    · rintro ⟨reply, hmem⟩
      exact absurd hmem (hquiet.not_pinned _ _)
  switched source target score decision h := by
    rw [houtcome] at h
    exact absurd h (hnone source target score)
  failed failure := by
    rw [houtcome]
    constructor
    · intro h
      exact ⟨h, fun bssid reply => hquiet.not_pinned bssid reply⟩
    · rintro ⟨h, -⟩
      exact h

/-- An iteration that names a choice agrees with one that acts on it, also if they note the choice
in different words. -/
theorem agrees_of_choice {source target : String} {score : Int32} {reply : Except Failure Unit}
    {common rest : List Event} {named acted : Notice}
    (hdry : dry.value.1 = .ok (.wouldSwitch source target score))
    (hwet : ∀ decision, wet.value.1 = .ok decision → decision = .switched source target score)
    (hregistry : dry.value.2.registry = wet.value.2.registry) (hquiet : Event.Quiet common)
    (hnamed : dry.events = common ++ [.noted named])
    (hacted : wet.events = common ++ .noted acted :: .pinned (some target) reply :: rest)
    (hrest : ∀ event ∈ rest, event.isLook = false ∧ event.target? = none) :
    Agrees dry wet where
  looks := by
    have hnone : rest.filter (·.isLook) = [] := by
      rw [List.filter_eq_nil_iff]
      intro event hmem
      exact Bool.eq_false_iff.1 (hrest event hmem).1
    have hlooks : (Event.noted acted :: .pinned (some target) reply :: rest).filter (·.isLook)
        = rest.filter (·.isLook) := rfl
    rw [hnamed, hacted, List.filter_append, List.filter_append, hlooks, hnone]
    rfl
  registry := hregistry
  stayed link := by
    constructor
    · intro h
      exact nomatch hdry.symm.trans h
    · intro h
      exact nomatch hwet _ h
  pinned target' := by
    constructor
    · rintro ⟨source', score', h⟩
      cases hdry.symm.trans h
      rw [hacted]
      exact ⟨reply, by simp⟩
    · rintro ⟨reply', hmem⟩
      rw [hacted] at hmem
      rcases List.mem_append.1 hmem with hmem | hmem
      · exact absurd hmem (hquiet.not_pinned _ _)
      · simp only [List.mem_cons, reduceCtorEq, false_or] at hmem
        rcases hmem with heq | hmem
        · cases heq
          exact ⟨source, score, hdry⟩
        · exact nomatch (hrest _ hmem).2
  switched source' target' score' decision h houtcome := by
    cases hdry.symm.trans h
    exact hwet decision houtcome
  failed failure := by
    constructor
    · intro h
      exact nomatch hdry.symm.trans h
    · rintro ⟨-, hnone⟩
      rw [hacted] at hnone
      exact absurd (by simp) (hnone (some target) reply)

end Agreement

/-- An iteration of a dry run agrees with a real one. -/
theorem agrees_tick (host : Host σ) (m : Monitor) (s : σ) :
    Agrees ({ m with dryRun := true }.tick host s) ({ m with dryRun := false }.tick host s) := by
  obtain ⟨t, ht⟩ := exists_iteration host { m with dryRun := false } s
  rw [ht.tick_eq]
  -- the way in which the real iteration ends settles the way of the dry one
  have hdry : ∀ {t}, Iteration host { m with dryRun := true } s t →
      { m with dryRun := true }.tick host s = t := fun h => h.tick_eq
  cases ht with
  | scanFailed hscan =>
      rw [hdry (.scanFailed hscan)]
      exact agrees_of_quiet rfl rfl rfl (by simp [Event.isAct]) (by simp)
  | unassociated hswept hactive =>
      rw [hdry (.unassociated hswept hactive)]
      exact agrees_of_quiet rfl rfl rfl hswept.quiet_sweepEvents (by simp)
  | stayed hswept hactive hchoice =>
      rw [hdry (.stayed hswept hactive hchoice)]
      exact agrees_of_quiet rfl rfl rfl (hswept.quiet_judged _) (by simp)
  | wouldSwitch hswept hactive hchoice hwet => cases hwet
  | pinFailed hswept hactive hchoice _ hpin =>
      rw [hdry (.wouldSwitch hswept hactive hchoice rfl)]
      exact agrees_of_choice rfl (by simp) rfl (hswept.quiet_judged _) rfl rfl (by simp)
  | restartFailed hswept hactive hchoice _ hpin hrestart =>
      rw [hdry (.wouldSwitch hswept hactive hchoice rfl)]
      refine agrees_of_choice rfl (by simp) rfl (hswept.quiet_judged _) rfl rfl ?_
      simp [Event.isLook, Event.target?]
  | switched hswept hactive hchoice _ hpin hrestart =>
      rw [hdry (.wouldSwitch hswept hactive hchoice rfl)]
      refine agrees_of_choice rfl ?_ rfl (hswept.quiet_judged _) rfl rfl ?_
      · intro decision h
        exact (Except.ok.inj h).symm
      · simp [Event.isLook, Event.target?]

/-- **Dry runs are harmless and faithful**: a history of a dry run never pins and never restarts, it
pauses only between iterations, it remembers no pin, and on the command-line tools it runs no
command that changes anything; and each iteration of a dry run agrees with a real one. -/
theorem dry_run_harmless_and_faithful (settings : Settings) :
    (∀ {σ : Type} (host : Host σ) (ops : List Operation) (s : σ),
      let m := new settings true
      let run := m.performAll host ops s
      (∀ bssid reply, .pinned bssid reply ∉ run.events)
        ∧ (∀ reply, .restarted reply ∉ run.events)
        ∧ (∀ before pause after, run.events = before ++ .slept pause :: after →
          ∃ x : Moment host m s (m.moves host s ops) before (.slept pause) after, ∃ cadence,
            x.move = .pause cadence ∧ pause = m.interval cadence)
        ∧ run.value.lastPinned = none)
      ∧ (∀ {τ : Type} (tools : Toolbox τ) (profile : String) (ops : List Operation)
        (s : List Command × τ),
        ∃ commands, ((new settings true).performAll (NetworkManager.host tools.logged profile) ops
            s).state.1 = s.1 ++ commands
          ∧ ∀ c ∈ commands, c.isChange = false)
      ∧ ∀ {σ : Type} (host : Host σ) (m : Monitor) (s : σ),
        Agrees ({ m with dryRun := true }.tick host s)
          ({ m with dryRun := false }.tick host s) := by
  have h : (new settings true).Untouched := ⟨rfl, rfl⟩
  refine ⟨?_, fun tools profile => h.not_isChange tools profile, agrees_tick⟩
  intro σ host ops s m run
  refine ⟨?_, ?_, ?_, (h.harmless ops s).1⟩
  · intro bssid reply
    exact h.not_mem rfl fun _ heq => nomatch heq
  · intro reply
    exact h.not_mem rfl fun _ heq => nomatch heq
  · intro before pause after hevents
    obtain ⟨x, cadence, hmove, heq⟩ := (h.harmless ops s).2 before (.slept pause) after rfl hevents
    exact ⟨x, cadence, hmove, Event.slept.inj heq⟩

end Roaming.Monitor
