import Roaming.Proofs.Choice
import Roaming.Proofs.Drafts
import Roaming.Proofs.Scans

/-!
# Pins are made for a reason

Whatever is asked of a monitor, and whatever the host answers, a pin of a BSSID is justified by the
scan of the same iteration: in the last rows of that scan the BSSID is idle and outdoes the active
link, which is in use (`pins_outdo_the_link`). Nothing that only an earlier scan told of has a part
in it.

The argument has two halves. The registry of a monitor is dated no later than its scans
(`dated_makeAll`), so the active link and the candidates mirror their last rows in the latest scan
(`outdoes_of_choice`). And a pin is an event of an iteration after its own scan
(`Moment.move_eq_tick`, `Iteration.of_pinned`).
-/

namespace Roaming

/-- In the last rows of a scan one access point is in use, and another one is idle, beats its
quality by more than a penalty and has no lower rate. -/
def Observation.Outdoes (penalty : Int32) (rows : List Observation) (source target : String) :
    Prop :=
  ∃ link candidate, lastRow? rows source = some link ∧ lastRow? rows target = some candidate
    ∧ source ≠ target ∧ link.inUse = true ∧ candidate.inUse = false
    ∧ link.quality.toInt + penalty.toInt < candidate.quality.toInt ∧ link.rate ≤ candidate.rate

/-- A choice among the candidates of a refreshed registry outdoes its active link in the scan. -/
theorem Registry.Dated.outdoes_of_choice {r : Registry} {gs : List Sighting} {penalty : Int32}
    {link : AccessPoint} {choice : Choice} (h : r.Dated) (hpenalty : 0 ≤ penalty.toInt)
    (hactive : (r.absorb gs).registry.active = .ok link)
    (hchoice : Choice.best penalty link (r.absorb gs).registry.candidates = some choice) :
    Observation.Outdoes penalty (gs.map (·.row)) link.bssid choice.entry.bssid := by
  obtain ⟨hlink, hused⟩ := current_of_active hactive
  obtain ⟨hmem, haccepted⟩ := Choice.best_mem hchoice
  obtain ⟨hcurrent, hidle⟩ := mem_candidates_iff.1 hmem
  obtain ⟨-, hquality, hrate, -⟩ := AccessPoint.judge_eq_accepted_iff.1 haccepted
  obtain ⟨row, hlast, hmirrors⟩ := h.mirrors_of_current hlink
  obtain ⟨row', hlast', hmirrors'⟩ := h.mirrors_of_current hcurrent
  refine ⟨row, row', hlast, hlast', ?_, ?_, ?_, ?_, ?_⟩
  · intro hsame
    rw [hsame, hlast'] at hlast
    obtain rfl := Option.some.inj hlast
    exact nomatch hused.symm.trans (hmirrors.inUse.trans (hmirrors'.inUse.symm.trans hidle))
  · rw [← hmirrors.inUse, hused]
  · rw [← hmirrors'.inUse, hidle]
  · rw [← hmirrors.quality, ← hmirrors'.quality]
    exact (AccessPoint.threshold_lt_iff hpenalty _).1 hquality
  · rw [← hmirrors.rate, ← hmirrors'.rate]
    exact hrate

namespace Monitor

variable {σ : Type} {host : Host σ} {m : Monitor} {s : σ} {moves : List Move}

/-! ## What a monitor keeps -/

theorem dated_makeAll (h : m.registry.Dated) : (m.makeAll host moves s).value.registry.Dated := by
  obtain ⟨history, -, hregistry⟩ := exists_absorbAll_makeAll host m s moves
  rw [hregistry]
  exact h.absorbAll

/-! ## Pins belong to iterations -/

/-- Of all moves only iterations pin the profile to a BSSID. -/
theorem eq_tick_of_pinned {move : Move} {bssid : String} {reply : Except Failure Unit}
    (h : .pinned (some bssid) reply ∈ (m.make host move s).events) : move = .tick := by
  cases move with
  | tick => rfl
  | start =>
      rw [make_start] at h
      exact absurd h (not_pinned_some_start m s bssid reply)
  | answer outcome =>
      rw [make_answer] at h
      exact absurd h ((quiet_answer outcome s).not_pinned _ _)
  | pause cadence =>
      rw [make_pause] at h
      simp at h
  | stop =>
      rw [make_stop] at h
      simp at h

variable {before after : List Event} {bssid : String} {reply : Except Failure Unit}

theorem Moment.move_eq_tick
    (x : Moment host m s moves before (.pinned (some bssid) reply) after) : x.move = .tick :=
  eq_tick_of_pinned x.event_mem

/-! ## Pins and the scans of their iterations -/

/-- **Every pin is justified by the scan of its iteration**: for checked settings, any host and any
history of operations, a pin of a BSSID is the only pin of an iteration, it comes after the scan of
that iteration succeeded, and in that scan the BSSID outdoes the active link. -/
theorem pins_outdo_the_link (host : Host σ) {draft : Settings.Draft} {settings : Settings}
    (hdraft : draft.resolve = .ok settings) (dryRun : Bool) (ops : List Operation) (s : σ) :
    let m := new settings dryRun
    m.performAll host ops s = m.makeAll host (m.moves host s ops) s
      ∧ ∀ before bssid reply after,
        (m.performAll host ops s).events = before ++ .pinned (some bssid) reply :: after →
        ∃ x : Moment host m s (m.moves host s ops) before (.pinned (some bssid) reply) after,
          x.move = .tick
            ∧ (∀ bssid' reply', .pinned bssid' reply' ∉ x.inner ++ x.outer)
            ∧ ∃ rows between link, x.inner = .scanned (.ok rows) :: between
              ∧ x.ticked.value.2.registry.active = .ok link
              ∧ Observation.Outdoes settings.qualityPenalty rows link.bssid bssid := by
  intro m
  refine ⟨performAll_eq_makeAll m ops s, ?_⟩
  intro before bssid reply after hpinned
  rw [performAll_eq_makeAll] at hpinned
  obtain ⟨x⟩ := exists_moment hpinned
  have htick := x.move_eq_tick
  have hiteration : Iteration host x.now.value x.now.state x.ticked := iteration_iff.2 rfl
  obtain ⟨rows, sweep, link, choice, hswept, hactive, hchoice, hregistry, hbssid, hinner, honly⟩ :=
    hiteration.of_pinned (Moment.events_ticked htick)
  obtain ⟨gs, rfl, hvalue⟩ := hswept.exists_absorb
  -- what the moves before kept: the settings, and that nothing is dated later than its scan
  have hsettings : x.now.value.settings = settings := settings_makeAll host m s x.past
  have hdated : x.now.value.registry.Dated := dated_makeAll (Registry.dated_empty settings.limits)
  refine ⟨x, htick, honly, _, _, link, hinner, ?_, ?_⟩
  · rw [hregistry]
    exact hactive
  · obtain rfl := Option.some.inj hbssid
    rw [choice?, withSweep, hvalue, hsettings] at hchoice
    rw [withSweep, hvalue] at hactive
    exact hdated.outdoes_of_choice (Settings.Draft.penalty_nonneg hdraft) hactive hchoice

/-- Of the two rows for "BB" the last one counts, and it beats the link by one more than the
penalty; "CC" of the scan before has no part in it. -/
theorem pins_outdo_the_link_in_two_scans :
    let m := new Settings.default false
    let script : List (List Observation) :=
      [[⟨true, "AA", "home", 50, 100⟩, ⟨false, "CC", "home", 60, 100⟩],
        [⟨false, "BB", "home", 90, 54⟩, ⟨true, "AA", "home", 50, 100⟩,
          ⟨false, "BB", "home", 61, 100⟩]]
    Settings.Draft.empty.resolve = .ok Settings.default
      ∧ ∃ before reply after,
        (m.performAll .scripted [.tick, .step] script).events
          = before ++ .pinned (some "BB") reply :: after
        ∧ ∃ x : Moment .scripted m script (m.moves .scripted script [.tick, .step]) before
            (.pinned (some "BB") reply) after,
          x.move = .tick ∧ ∃ rows between, ∃ link : AccessPoint,
            x.inner = .scanned (.ok rows) :: between
              ∧ Observation.Outdoes 10 rows link.bssid "BB" := by
  intro m script
  have hdraft : Settings.Draft.empty.resolve = .ok Settings.default := rfl
  have htargets :
      Event.targetsOf (m.performAll .scripted [.tick, .step] script).events = ["BB"] := by
    decide +kernel
  obtain ⟨before, reply, after, hpinned⟩ :=
    Event.exists_pinned_of_mem (by rw [htargets]; exact List.mem_cons_self)
  obtain ⟨x, htick, -, rows, between, link, hinner, -, houtdoes⟩ :=
    (pins_outdo_the_link .scripted hdraft false [.tick, .step] script).2 _ _ _ _ hpinned
  exact ⟨hdraft, before, reply, after, hpinned, x, htick, rows, between, link, hinner, houtdoes⟩

end Monitor

end Roaming
