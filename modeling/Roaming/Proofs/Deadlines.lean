import Roaming.Proofs.Commands
import Roaming.Proofs.Drafts
import Roaming.Settings.Document
import Roaming.Wait

/-!
# Pauses that outrun the clock

A monitor pauses to let the network settle, and for one of two intervals after a step
(`Monitor.pausesFor_performAll`). On a machine that waits by its clock a pause needs a deadline that
the clock can show, and without one the machine goes down (`Machine`). As no history asks for any
other pause, a machine stays up if its clock can show the ends of these three (`Timing.Fits`).

That is not checked, though: of the pauses that settings may ask for only intervals of zero are
refused (`Settings.Draft.exists_resolve_iff`). And a start pauses when it has cleared the pin and
restarted the network, so a machine that goes down then leaves its profile without a pin. The main
statement is `pauses_may_outrun_the_clock`.
-/

namespace Roaming

/-! ## The pauses of checked settings -/

namespace Timing

/-- The pauses of a monitor. -/
def pauses (t : Timing) : List Span :=
  [.ofSeconds t.settle, .ofSeconds t.shortInterval, .ofSeconds t.longInterval]

/-- After a reading a clock that counts seconds in 63 bits goes on for each of the pauses. -/
def Fits (t : Timing) (now : Nat) : Prop :=
  ∀ seconds ∈ [t.settle, t.shortInterval, t.longInterval],
    now / 1000000000 + seconds.toNat < Nat.pow 2 63

end Timing

theorem Wait.isSome_deadline?_ofSeconds_iff {now : Nat} {seconds : UInt64} :
    (Wait.deadline? now (.ofSeconds seconds)).isSome = true
      ↔ now / 1000000000 + seconds.toNat < Nat.pow 2 63 := by
  have hseconds : (now + seconds.toNat * 1000000000) / 1000000000
      = now / 1000000000 + seconds.toNat :=
    Nat.add_mul_div_right now seconds.toNat (by decide)
  rw [Wait.deadline?, Wait.isReading, Span.ofSeconds, hseconds]
  show (if decide (_ < Nat.pow 2 63) = true then some _ else none).isSome = true ↔ _
  split_ifs with hfits
  · exact iff_of_true rfl (of_decide_eq_true hfits)
  · exact iff_of_false (by simp) fun h => hfits (decide_eq_true h)

/-- The pauses have deadlines exactly if they fit the clock. -/
theorem Timing.fits_iff {t : Timing} {now : Nat} :
    t.Fits now ↔ ∀ pause ∈ t.pauses, (Wait.deadline? now pause).isSome = true := by
  simp [Fits, pauses, Wait.isSome_deadline?_ofSeconds_iff]

/-- **Of all pauses only intervals of zero are refused.** -/
theorem Settings.Draft.exists_resolve_iff {t : Timing} :
    (∃ (d : Draft) (s : Settings), d.resolve = .ok s ∧ s.timing = t)
      ↔ 1 ≤ t.shortInterval ∧ 1 ≤ t.longInterval := by
  constructor
  · rintro ⟨d, s, hresolve, rfl⟩
    have hsound := sound_of_resolve hresolve
    exact ⟨hsound.shortInterval, hsound.longInterval⟩
  · rintro ⟨hshort, hlong⟩
    have hdefault : Settings.default.Sound := sound_of_resolve (d := empty) rfl
    have hsound : ({ Settings.default with timing := t } : Settings).Sound :=
      ⟨hdefault.version, hdefault.profile_ne, hdefault.profile_trimmed, hdefault.penalty,
        hdefault.pings, hshort, hlong, hdefault.maxEntries, hdefault.staleAfterScans⟩
    exact ⟨_, _, resolve_ofSettings hsound, rfl⟩

/-! ## The pauses of a history -/

open Event

/-- Events pause for given pauses only. -/
def Event.PausesFor (pauses : List Span) (events : List Event) : Prop :=
  ∀ pause, .slept pause ∈ events → pause ∈ pauses

theorem Event.PausesFor.append {pauses : List Span} {events later : List Event}
    (h : PausesFor pauses events) (hlater : PausesFor pauses later) :
    PausesFor pauses (events ++ later) := by
  intro pause hmem
  exact (List.mem_append.1 hmem).elim (h pause) (hlater pause)

theorem Event.Quiet.pausesFor {events : List Event} (h : Quiet events) (pauses : List Span) :
    PausesFor pauses events := by
  intro pause hmem
  exact nomatch h _ hmem

namespace Monitor

variable {σ : Type} {host : Host σ} {m : Monitor} {s : σ} {pause : Span}

theorem settle_mem_pauses (m : Monitor) : m.settle ∈ m.settings.timing.pauses :=
  List.mem_cons_self

theorem interval_mem_pauses (m : Monitor) (cadence : Cadence) :
    m.interval cadence ∈ m.settings.timing.pauses := by
  cases cadence <;> simp [interval, Timing.pauses]

/-- A start pauses to settle, when it has cleared the pin and restarted the network. -/
theorem slept_start (h : .slept pause ∈ (m.start host s).events) :
    pause = m.settle ∧ .pinned none (.ok ()) ∈ (m.start host s).events
      ∧ .restarted (.ok ()) ∈ (m.start host s).events := by
  obtain ⟨t, ht⟩ := exists_startup host m s
  rw [ht.start_eq] at h ⊢
  cases ht <;> simp_all

/-- So does an iteration, after a switch. -/
theorem Iteration.pausesFor {t : Trace σ (Except Failure Decision × Monitor)}
    (ht : Iteration host m s t) : PausesFor [m.settle] t.events := by
  cases ht with
  | scanFailed hscan => exact Quiet.pausesFor (quiet_cons_iff.2 ⟨rfl, quiet_nil⟩) _
  | unassociated hswept => exact hswept.quiet_sweepEvents.pausesFor _
  | stayed hswept =>
      exact (quiet_append_iff.2 ⟨hswept.quiet_sweepEvents, quiet_judgeEvents _ _⟩).pausesFor _
  | wouldSwitch hswept => exact hswept.quiet_choosing.pausesFor _
  | pinFailed hswept | restartFailed hswept | switched hswept =>
      rw [List.append_cons]
      refine (hswept.quiet_choosing.pausesFor _).append ?_
      simp [PausesFor]

/-- One move pauses for the pauses of the settings only. -/
theorem pausesFor_make (host : Host σ) (m : Monitor) (s : σ) (move : Move) :
    PausesFor m.settings.timing.pauses (m.make host move s).events := by
  intro pause hmem
  cases move with
  | start =>
      rw [make_start] at hmem
      rw [(slept_start hmem).1]
      exact settle_mem_pauses m
  | tick =>
      rw [make_tick] at hmem
      have hiteration : Iteration host m s (m.tick host s) := iteration_iff.2 rfl
      rw [List.mem_singleton.1 (hiteration.pausesFor pause hmem)]
      exact settle_mem_pauses m
  | answer outcome =>
      rw [make_answer] at hmem
      exact (quiet_answer outcome s).pausesFor _ pause hmem
  | pause cadence =>
      rw [make_pause] at hmem
      obtain rfl : pause = m.interval cadence := by simpa using hmem
      exact interval_mem_pauses m cadence
  | stop =>
      rw [make_stop] at hmem
      simp at hmem

/-- **A history pauses for the pauses of its settings only.** -/
theorem pausesFor_performAll (host : Host σ) (m : Monitor) (ops : List Operation) (s : σ) :
    PausesFor m.settings.timing.pauses (m.performAll host ops s).events := by
  rw [performAll_eq_makeAll]
  generalize m.moves host s ops = moves
  induction moves generalizing m s with
  | nil => exact quiet_nil.pausesFor _
  | cons move moves ih =>
      have hsettings : (m.make host move s).value.settings = m.settings := by
        rw [← makeAll_singleton, settings_makeAll]
      rw [makeAll_cons]
      refine (pausesFor_make host m s move).append ?_
      rw [← hsettings]
      exact ih _ _

end Monitor

/-! ## Machines that wait by their clock -/

/-- A machine that may go down. -/
structure Machine (τ : Type) where
  state : τ
  isUp : Bool

variable {τ : Type}

/-- The tools of a machine that waits by its clock. A wait whose deadline the clock cannot show
brings the machine down, and after that nothing happens on it. -/
def Toolbox.onClock (tools : Toolbox τ) (clock : Wait.Clock τ) : Toolbox (Machine τ) where
  execute c x :=
    if x.isUp then ((tools.execute c x.state).1, { x with state := (tools.execute c x.state).2 })
    else (.error .notFound, x)
  sleep pause x :=
    if x.isUp then
      match Wait.wait clock pause x.state with
      | some waited => { x with state := waited.state }
      | none => { x with isUp := false }
    else x
  isRunning x := x.isUp && tools.isRunning x.state

variable (tools : Toolbox τ) (clock : Wait.Clock τ)

/-- A machine stays up over a pause exactly if the pause has a deadline. -/
theorem Toolbox.isUp_sleep {x : Machine τ} (hup : x.isUp = true) (pause : Span) :
    ((tools.onClock clock).sleep pause x).isUp
      = (Wait.deadline? (clock.now x.state).1 pause).isSome := by
  have hwait : (Wait.wait clock pause x.state).isSome
      = (Wait.deadline? (clock.now x.state).1 pause).isSome :=
    Option.isSome_map
  rw [← hwait, Toolbox.onClock]
  simp only [if_pos hup]
  cases Wait.wait clock pause x.state with
  | none => rfl
  | some waited => exact hup

namespace NetworkManager

/-- No command brings a machine down. -/
theorem isUp_execute (c : Command) (x : Machine τ) :
    (execute (tools.onClock clock) c x).2.isUp = x.isUp := by
  rw [execute]
  split_ifs with hsound
  · show ((tools.onClock clock).execute c x).2.isUp = x.isUp
    rw [Toolbox.onClock]
    simp only
    split_ifs <;> rfl
  · rfl

theorem isUp_executeForText (c : Command) (x : Machine τ) :
    (executeForText (tools.onClock clock) c x).2.isUp = x.isUp :=
  isUp_execute tools clock c x

/-- A machine stays up over pauses that have deadlines at every reading of its clock. -/
theorem respects_isUp (profile : String) :
    (host (tools.onClock clock) profile).Respects fun x events x' =>
      (∀ pause, .slept pause ∈ events →
        ∀ s, (Wait.deadline? (clock.now s).1 pause).isSome = true) → x.isUp = true →
      x'.isUp = true where
  refl x _ hup := hup
  trans := by
    intro x x' x'' events later h h' hpauses hup
    refine h' (fun pause hmem => hpauses pause (List.mem_append_right _ hmem)) ?_
    exact h (fun pause hmem => hpauses pause (List.mem_append_left _ hmem)) hup
  asked x _ hup := (isUp_executeForText tools clock _ x).trans hup
  scanned x _ hup := (isUp_executeForText tools clock listAccessPoints x).trans hup
  lookedUp x _ hup := (isUp_executeForText tools clock showDefaultRoutes x).trans hup
  probed gateway count deadline x _ hup := (isUp_execute tools clock _ x).trans hup
  pinned bssid x _ hup := (isUp_executeForText tools clock _ x).trans hup
  restarted x _ hup := (isUp_executeForText tools clock restartService x).trans hup
  slept pause x hpauses hup :=
    (tools.isUp_sleep clock hup pause).trans (hpauses pause List.mem_cons_self x.state)
  noted n x _ hup := hup

/-- **The clock may not outlast the pauses of settings that are accepted.** Settings are accepted
with any pauses but an interval of zero. The three pauses have deadlines at a reading of the clock
exactly if they fit it. A history pauses for no other ones, so the machine of the monitor stays up
if they fit every reading. But a pause without a deadline brings it down, and the pause of a start
comes after the pin was cleared and the network restarted. -/
theorem pauses_may_outrun_the_clock (profile : String) :
    (∀ t : Timing, (∃ (d : Settings.Draft) (s : Settings), d.resolve = .ok s ∧ s.timing = t)
        ↔ 1 ≤ t.shortInterval ∧ 1 ≤ t.longInterval)
      ∧ (∀ (t : Timing) (now : Nat),
        (∀ pause ∈ t.pauses, (Wait.deadline? now pause).isSome = true) ↔ t.Fits now)
      ∧ (∀ (settings : Settings) (dryRun : Bool) (ops : List Operation) (x : Machine τ),
        let run := (Monitor.new settings dryRun).performAll
          (host (tools.onClock clock) profile) ops x
        (∀ pause, .slept pause ∈ run.events → pause ∈ settings.timing.pauses)
          ∧ ((∀ s, settings.timing.Fits (clock.now s).1) → x.isUp = true →
            run.state.isUp = true))
      ∧ (∀ (pause : Span) (x : Machine τ), x.isUp = true →
        (((tools.onClock clock).sleep pause x).isUp = false
          ↔ Wait.deadline? (clock.now x.state).1 pause = none))
      ∧ ∀ (m : Monitor) (x : Machine τ) (pause : Span),
        let started := m.start (host (tools.onClock clock) profile) x
        .slept pause ∈ started.events → pause = .ofSeconds m.settings.timing.settle
          ∧ .pinned none (.ok ()) ∈ started.events ∧ .restarted (.ok ()) ∈ started.events := by
  refine ⟨fun t => Settings.Draft.exists_resolve_iff, fun t now => Timing.fits_iff.symm, ?_, ?_, ?_⟩
  · intro settings dryRun ops x run
    have hpauses : Event.PausesFor settings.timing.pauses run.events :=
      (Monitor.new settings dryRun).pausesFor_performAll _ ops x
    refine ⟨hpauses, fun hfits hup => ?_⟩
    refine (respects_isUp tools clock profile).performAll ops x ?_ hup
    intro pause hmem s
    exact Timing.fits_iff.1 (hfits s) pause (hpauses pause hmem)
  · intro pause x hup
    rw [tools.isUp_sleep clock hup]
    exact Option.isSome_eq_false_iff.trans Option.isNone_iff_eq_none
  · intro m x pause started hmem
    exact Monitor.slept_start hmem

/-- A document may ask to let the network settle for all the seconds that the clock counts. On a
machine where everything succeeds the start goes down over this pause one second after the clock
began, when it has cleared the pin and restarted the network. -/
theorem settle_pause_outruns_the_clock :
    let timing := { Settings.default.timing with settle := 9223372036854775807 }
    let settings := { Settings.default with timing }
    let tools : Toolbox Nat :=
      ⟨fun _ now => (.ok ⟨.code 0, "802-11-wireless".toUTF8.toList, []⟩, now),
        fun _ now => now, fun _ => true⟩
    let clock : Wait.Clock (List Command × Nat) :=
      ⟨fun s => (s.2, s), fun s => (true, s), fun length s => (s.1, s.2 + length.nanos)⟩
    let started := (Monitor.new settings false).start
      (host (tools.logged.onClock clock) settings.profile) ⟨([], 1000000000), true⟩
    Settings.ofDocument "[timing]\nsettle_secs = 9223372036854775807\n" = .ok settings
      ∧ Wait.deadline? 1000000000 (.ofSeconds settings.timing.settle) = none
      ∧ started.state.isUp = false
      ∧ started.state.state.1
        = [showType settings.profile, modifyPin settings.profile none, restartService] := by
  decide +kernel

end NetworkManager

end Roaming
