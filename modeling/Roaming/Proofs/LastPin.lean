import Roaming.Proofs.Hysteresis

/-!
# What failures leave behind

A switch is a pin and then a restart of the network, and either may fail. A monitor remembers a pin
as soon as it is made. So at every moment of a history it remembers the last pin that succeeded
(`Tracks`), whatever failed before it, after it or between it and its restart.

Nothing else outlives a failure. A failed scan or start leaves the monitor as it was, and an
iteration that fails later, before its pin is made, changes the registry alone
(`Iteration.error_cases`). An iteration without a link is one of these, but the answer that there is
no link may also come from the restart after a pin, and then the pin stays
(`restart_without_link_makes_news`). The main statement is `failures_keep_what_was_pinned`.
-/

namespace Roaming

open Event

/-- A host that takes its scans and the replies to its restarts from two scripts in turn. It has no
gateway, and all else succeeds. -/
def Host.scriptedRestarts : Host (List (List Observation) × List (Except Failure Unit)) where
  isAvailable script := (.ok true, script)
  scan script := (.ok (script.1.headD []), (script.1.tail, script.2))
  defaultGateway script := (.ok none, script)
  probe _ _ _ script := (.ok none, script)
  pin _ script := (.ok (), script)
  restart script := (script.2.headD (.ok ()), (script.1, script.2.tail))
  sleep _ script := script
  isRunning _ := true

namespace Monitor

variable {σ : Type} {host : Host σ} {m : Monitor} {s : σ}

/-- A monitor remembers the last pin that succeeded, if there was one. -/
def Tracks (m : Monitor) (events : List Event) : Prop :=
  m.lastPinned = (pinsOf events).getLast?

/-- A monitor differs from another one in its registry alone. -/
def SameButRegistry (m m' : Monitor) : Prop :=
  m' = { m with registry := m'.registry }

theorem SameButRegistry.reportNews_eq {m' : Monitor} (h : m.SameButRegistry m') :
    m'.reportNews = m.reportNews := by
  rw [SameButRegistry] at h
  rw [h]

/-! ## The last pin -/

section Choosing

variable {rows : List Observation} {sweep : Trace σ Refresh} {link : AccessPoint} {choice : Choice}
  {rest : List Event}

theorem Swept.quiet_judging (h : m.Swept host s rows sweep) :
    Quiet (m.sweepEvents rows sweep ++ (m.withSweep sweep).judgeEvents link) :=
  quiet_append_iff.2 ⟨h.quiet_sweepEvents, quiet_judgeEvents _ link⟩

/-- In an iteration that acts on a choice, the pin comes after the choosing. -/
theorem Swept.pinned_mem_iff (h : m.Swept host s rows sweep) {bssid : Option String}
    {reply : Except Failure Unit} :
    .pinned bssid reply ∈ m.sweepEvents rows sweep ++ (m.withSweep sweep).judgeEvents link
        ++ .noted (.switching link.bssid choice m.dryRun) :: rest
      ↔ .pinned bssid reply ∈ rest := by
  rw [List.append_cons, List.mem_append]
  exact or_iff_right (h.quiet_choosing.not_pinned bssid reply)

theorem Swept.pinsOf_choosing (h : m.Swept host s rows sweep) :
    pinsOf (m.sweepEvents rows sweep ++ (m.withSweep sweep).judgeEvents link
        ++ .noted (.switching link.bssid choice m.dryRun) :: rest) = pinsOf rest := by
  rw [List.append_cons, pinsOf_append]
  show pinsOf (m.choosing rows sweep link choice) ++ _ = _
  rw [h.quiet_choosing.pinsOf_eq_nil, List.nil_append]

end Choosing

/-- An iteration that pins nothing keeps the pin in mind, and one that pins a BSSID remembers it. -/
theorem Iteration.lastPinned_cases {t : Trace σ (Except Failure Decision × Monitor)}
    (h : Iteration host m s t) :
    (pinsOf t.events = [] ∧ t.value.2.lastPinned = m.lastPinned)
      ∨ ∃ bssid, pinsOf t.events = [bssid] ∧ t.value.2.lastPinned = some bssid := by
  cases h with
  | scanFailed hscan => exact .inl ⟨rfl, rfl⟩
  | unassociated hswept hactive => exact .inl ⟨hswept.quiet_sweepEvents.pinsOf_eq_nil, rfl⟩
  | stayed hswept hactive hchoice => exact .inl ⟨hswept.quiet_judging.pinsOf_eq_nil, rfl⟩
  | wouldSwitch hswept hactive hchoice hdry => exact .inl ⟨hswept.pinsOf_choosing, rfl⟩
  | pinFailed hswept hactive hchoice hdry hpin => exact .inl ⟨hswept.pinsOf_choosing, rfl⟩
  | restartFailed hswept hactive hchoice hdry hpin hrestart
  | switched hswept hactive hchoice hdry hpin hrestart =>
      exact .inr ⟨_, hswept.pinsOf_choosing, rfl⟩

/-- **One move keeps track of the last pin**: of all moves only iterations pin or forget, and these
remember what they pin. -/
theorem Tracks.make {events : List Event} (h : m.Tracks events) (move : Move) :
    (m.make host move s).value.Tracks (events ++ (m.make host move s).events) := by
  rw [Tracks, pinsOf_append]
  by_cases hmove : move = .tick
  · subst hmove
    rw [make_tick]
    have hiteration : Iteration host m s (m.tick host s) := iteration_iff.2 rfl
    show (m.tick host s).value.2.lastPinned = (_ ++ pinsOf (m.tick host s).events).getLast?
    rcases hiteration.lastPinned_cases with ⟨hnone, hkept⟩ | ⟨bssid, hone, hpinned⟩
    · rw [hnone, hkept, List.append_nil]
      exact h
    · rw [hone, hpinned, List.getLast?_concat]
  · have hkept : (m.make host move s).value.lastPinned = m.lastPinned := by
      cases move with
      | tick => exact absurd rfl hmove
      | start =>
          obtain ⟨phase, hphase⟩ := exists_phase_start host m s
          rw [make_start]
          show (m.start host s).value.2.lastPinned = _
          rw [hphase]
      | answer outcome => rw [make_answer]
      | pause | stop => rfl
    rw [pinsOf_make_of_ne_tick hmove, hkept, List.append_nil]
    exact h

/-- **A history keeps track of the last pin.** -/
theorem Tracks.performAll (h : m.Tracks []) (ops : List Operation) (s : σ) :
    (m.performAll host ops s).value.Tracks (m.performAll host ops s).events := by
  rw [performAll_eq_makeAll]
  exact makeAll_induction (P := fun m events _ => m.Tracks events) []
    (fun m events s move hm => hm.make move) h

/-! ## What a failure changes -/

/-- A failed iteration changes the registry alone, or it failed to restart the network after a pin,
which it remembers. -/
theorem Iteration.error_cases {t : Trace σ (Except Failure Decision × Monitor)} {failure : Failure}
    (h : Iteration host m s t) (hfailed : t.value.1 = .error failure) :
    m.SameButRegistry t.value.2
      ∨ ∃ bssid, .pinned (some bssid) (.ok ()) ∈ t.events ∧ .restarted (.error failure) ∈ t.events
        ∧ t.value.2 = { m with registry := t.value.2.registry }.withPin bssid := by
  cases h with
  | scanFailed hscan => exact .inl rfl
  | unassociated hswept hactive => exact .inl rfl
  | stayed | wouldSwitch | switched => exact nomatch hfailed
  | pinFailed hswept hactive hchoice hdry hpin => exact .inl rfl
  | restartFailed hswept hactive hchoice hdry hpin hrestart =>
      obtain rfl := Except.error.inj hfailed
      refine .inr ⟨_, hswept.pinned_mem_iff.2 List.mem_cons_self, ?_, rfl⟩
      exact List.mem_append_right _ (by simp)

/-- An iteration whose pin failed fails as the pin did, and changes the registry alone. -/
theorem Iteration.of_pin_error {t : Trace σ (Except Failure Decision × Monitor)}
    {bssid : Option String} {failure : Failure} (h : Iteration host m s t)
    (hpinned : .pinned bssid (.error failure) ∈ t.events) :
    t.value.1 = .error failure ∧ m.SameButRegistry t.value.2 := by
  cases h with
  | scanFailed hscan => simp at hpinned
  | unassociated hswept hactive => exact absurd hpinned (hswept.quiet_sweepEvents.not_pinned _ _)
  | stayed hswept hactive hchoice => exact absurd hpinned (hswept.quiet_judging.not_pinned _ _)
  | wouldSwitch hswept hactive hchoice hdry =>
      exact absurd (hswept.pinned_mem_iff.1 hpinned) List.not_mem_nil
  | pinFailed hswept hactive hchoice hdry hpin =>
      have hmem := hswept.pinned_mem_iff.1 hpinned
      obtain ⟨-, hreply⟩ := Event.pinned.inj (List.mem_singleton.1 hmem)
      obtain rfl := Except.error.inj hreply
      exact ⟨rfl, rfl⟩
  | restartFailed hswept hactive hchoice hdry hpin hrestart
  | switched hswept hactive hchoice hdry hpin hrestart =>
      have hmem := hswept.pinned_mem_iff.1 hpinned
      simp at hmem

/-- An iteration that finds no link after its scan says so, and changes the registry alone. -/
theorem Iteration.of_active_error {t : Trace σ (Except Failure Decision × Monitor)}
    {rows : List Observation} {failure : Failure} (h : Iteration host m s t)
    (hrows : (host.scan s).1 = .ok rows) (hnone : t.value.2.registry.active = .error failure) :
    t.value.1 = .error failure ∧ m.SameButRegistry t.value.2 := by
  cases h with
  | scanFailed hscan =>
      rw [hscan] at hrows
      exact nomatch hrows
  | unassociated hswept hactive =>
      obtain rfl := Except.error.inj (hactive.symm.trans hnone)
      exact ⟨rfl, rfl⟩
  | stayed hswept hactive | wouldSwitch hswept hactive | pinFailed hswept hactive
  | restartFailed hswept hactive | switched hswept hactive =>
      exact nomatch hactive.symm.trans hnone

/-- A start that fails changes nothing. It stops at what failed: the network is not restarted if the
pin could not be cleared, and there is no pause if the network could not be restarted. -/
theorem Startup.of_failures {t : Trace σ (Except Failure Phase × Monitor)}
    (h : Startup host m s t) :
    (∀ failure, t.value.1 = .error failure → t.value.2 = m)
      ∧ (∀ bssid failure, .pinned bssid (.error failure) ∈ t.events →
        ∀ reply, .restarted reply ∉ t.events)
      ∧ ∀ failure, .restarted (.error failure) ∈ t.events → ∀ pause, .slept pause ∉ t.events := by
  cases h with
  | unanswered hasked => exact ⟨fun _ _ => rfl, by simp, by simp⟩
  | unavailable hasked | leftAlone hasked hdry =>
      exact ⟨fun _ hfailed => (nomatch hfailed), by simp, by simp⟩
  | unpinFailed hasked hdry hpin => exact ⟨fun _ _ => rfl, by simp, by simp⟩
  | restartFailed hasked hdry hpin hrestart => exact ⟨fun _ _ => rfl, by simp, by simp⟩
  | cleared hasked hdry hpin hrestart =>
      exact ⟨fun _ hfailed => (nomatch hfailed), by simp, by simp⟩

/-- **Failures keep what was pinned.** After any history a monitor remembers the last pin that
succeeded. A failed scan changes nothing. The lack of a link, a failed pin and in fact every failure
of an iteration change the registry alone, but for that of a restart after a pin, which is
remembered. A start changes the phase at most, nothing if it fails, and it stops at what failed. -/
theorem failures_keep_what_was_pinned (settings : Settings) (dryRun : Bool) {σ : Type}
    (host : Host σ) :
    (∀ ops s, let run := (new settings dryRun).performAll host ops s
      run.value.lastPinned = (pinsOf run.events).getLast?)
      ∧ (∀ (m : Monitor) (s : σ), let ticked := m.tick host s
        (∀ failure, (host.scan s).1 = .error failure → ticked.value = (.error failure, m))
          ∧ (∀ rows failure, (host.scan s).1 = .ok rows →
            ticked.value.2.registry.active = .error failure →
            ticked.value.1 = .error failure ∧ m.SameButRegistry ticked.value.2)
          ∧ (∀ bssid failure, .pinned bssid (.error failure) ∈ ticked.events →
            ticked.value.1 = .error failure ∧ m.SameButRegistry ticked.value.2)
          ∧ ∀ failure, ticked.value.1 = .error failure →
            m.SameButRegistry ticked.value.2
              ∨ ∃ bssid, .pinned (some bssid) (.ok ()) ∈ ticked.events
                ∧ .restarted (.error failure) ∈ ticked.events
                ∧ ticked.value.2 = { m with registry := ticked.value.2.registry }.withPin bssid)
      ∧ ∀ (m : Monitor) (s : σ), let started := m.start host s
        (∀ failure, started.value.1 = .error failure → started.value.2 = m)
          ∧ (∃ phase, started.value.2 = { m with phase })
          ∧ (∀ bssid failure, .pinned bssid (.error failure) ∈ started.events →
            ∀ reply, .restarted reply ∉ started.events)
          ∧ ∀ failure, .restarted (.error failure) ∈ started.events →
            ∀ pause, .slept pause ∉ started.events := by
  refine ⟨?_, ?_, ?_⟩
  · intro ops s
    have htracks : (new settings dryRun).Tracks [] := rfl
    exact htracks.performAll ops s
  · intro m s ticked
    have hiteration : Iteration host m s ticked := iteration_iff.2 rfl
    refine ⟨?_, ?_, ?_, ?_⟩
    · intro failure hfailed
      have hticked : ticked = _ := tick_of_scan_error (Prod.ext hfailed rfl)
      rw [hticked]
    · intro rows failure hrows hnone
      exact hiteration.of_active_error hrows hnone
    · intro bssid failure hpinned
      exact hiteration.of_pin_error hpinned
    · intro failure hfailed
      exact hiteration.error_cases hfailed
  · intro m s started
    have hstartup : Startup host m s started := startup_iff.2 rfl
    obtain ⟨hkept, hunpinned, hrestarted⟩ := hstartup.of_failures
    exact ⟨hkept, exists_phase_start host m s, hunpinned, hrestarted⟩

/-- An iteration may answer that there is no link and change more than the registry. In the third
one this is the answer of the restart after its pin. The BSSID is that of the first pin, but the
next report on the link is news again. -/
theorem restart_without_link_makes_news :
    let rows : Int32 → List Observation := fun quality =>
      [⟨true, "AA", "home", 50, 100⟩, ⟨false, "BB", "home", quality, 100⟩]
    let elsewhere : Failure := .notConnected (some "elsewhere")
    let script := ([rows 65, rows 40, rows 65], [.ok (), .error elsewhere])
    let earlier := (new Settings.default false).performAll .scriptedRestarts [.tick, .tick] script
    let third := earlier.value.tick .scriptedRestarts earlier.state
    third.value.1 = .error elsewhere
      ∧ earlier.value.lastPinned = some "BB" ∧ third.value.2.lastPinned = some "BB"
      ∧ earlier.value.reportNews = false ∧ third.value.2.reportNews = true
      ∧ ¬ earlier.value.SameButRegistry third.value.2 := by
  intro rows elsewhere script earlier third
  have hcourse : third.value.1 = .error elsewhere
      ∧ earlier.value.lastPinned = some "BB" ∧ third.value.2.lastPinned = some "BB"
      ∧ earlier.value.reportNews = false ∧ third.value.2.reportNews = true := by
    decide +kernel
  obtain ⟨hfailed, hpinned, hkept, hold, hnew⟩ := hcourse
  refine ⟨hfailed, hpinned, hkept, hold, hnew, ?_⟩
  intro hsame
  have hnews := hsame.reportNews_eq
  rw [hold, hnew] at hnews
  exact nomatch hnews

end Monitor

end Roaming
