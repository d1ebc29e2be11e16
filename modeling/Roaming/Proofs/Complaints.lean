import Roaming.Proofs.Reports

/-!
# Complaints of a pin that is not honoured

A monitor complains of a link that is not the BSSID it pinned last. The profile has no pin at all,
though, after a start has cleared it, and the monitor does not forget its last pin then. So what a
complaint is about and what the profile says have to be kept apart: the last pin that was made
(`Event.pinsOf`), and the last change of the pin, which a start makes as well
(`Event.profilePin`).

The two differ in one way only: the pin may be gone (`profilePin_cases`). So no complaint is missed,
and the false ones are those of a pin that a start cleared. Where nothing but the first move is a
start, as in a run, there are none of these (`keepsPin_makeAll`). The main statement is
`complaints_follow_pins`.
-/

namespace Roaming

namespace Event

/-- What the pin of the profile was changed to. -/
def write? : Event → Option (Option String)
  | .pinned bssid (.ok ()) => some bssid
  | _ => none

/-- What the pin of the profile was changed to, in order. -/
def writesOf (events : List Event) : List (Option String) :=
  events.filterMap write?

/-- The pin that events leave in a profile without one: what it was changed to last. -/
def profilePin (events : List Event) : Option String :=
  (writesOf events).getLast?.join

/-- The pin that was made last is still in the profile. -/
def KeepsPin (events : List Event) : Prop :=
  profilePin events = (pinsOf events).getLast?

variable {events later : List Event}

theorem writesOf_append (events later : List Event) :
    writesOf (events ++ later) = writesOf events ++ writesOf later :=
  List.filterMap_append

/-- The pins are those changes that give a BSSID. -/
theorem pinsOf_eq_filterMap_writesOf (events : List Event) :
    pinsOf events = (writesOf events).filterMap id := by
  rw [pinsOf, writesOf, List.filterMap_filterMap]
  refine List.filterMap_congr fun event _ => ?_
  cases event with
  | pinned bssid reply =>
      cases reply <;> rfl
  | asked | scanned | lookedUp | probed | restarted | slept | noted => rfl

theorem writesOf_eq_nil {events : List Event}
    (h : ∀ bssid reply, .pinned bssid reply ∉ events) : writesOf events = [] := by
  rw [writesOf, List.filterMap_eq_nil_iff]
  intro event hmem
  cases event with
  | pinned bssid reply => exact absurd hmem (h bssid reply)
  | asked | scanned | lookedUp | probed | restarted | slept | noted => rfl

/-- The profile has the pin that was made last, or none. -/
theorem profilePin_cases (events : List Event) : profilePin events = none ∨ KeepsPin events := by
  rw [KeepsPin, profilePin, pinsOf_eq_filterMap_writesOf]
  rcases List.eq_nil_or_concat' (writesOf events) with hnone | ⟨earlier, last, hlast⟩
  · rw [hnone]
    exact .inl rfl
  · rw [hlast, List.getLast?_concat]
    cases last with
    | none => exact .inl rfl
    | some bssid =>
        refine .inr ?_
        rw [List.filterMap_append]
        exact List.getLast?_concat.symm

/-- What the profile is pinned to is the pin that was made last. -/
theorem getLast?_pinsOf_of_profilePin {bssid : String} (h : profilePin events = some bssid) :
    (pinsOf events).getLast? = some bssid := by
  rcases profilePin_cases events with hnone | hkeeps
  · exact absurd (h.symm.trans hnone) (Option.some_ne_none bssid)
  · exact hkeeps.symm.trans h

/-- The pin that was made last is another BSSID exactly if the profile is pinned to another one,
unless that pin is gone. -/
theorem lastPin_iff_profilePin (events : List Event) (bssid : String) :
    ((∃ pinned, (pinsOf events).getLast? = some pinned ∧ pinned ≠ bssid)
        ↔ ∃ pinned, profilePin events = some pinned ∧ pinned ≠ bssid)
      ↔ ¬ (profilePin events = none
        ∧ ∃ pinned, (pinsOf events).getLast? = some pinned ∧ pinned ≠ bssid) := by
  constructor
  · rintro hsame ⟨hnone, hlast⟩
    obtain ⟨pinned, hpinned, -⟩ := hsame.1 hlast
    exact absurd (hpinned.symm.trans hnone) (Option.some_ne_none pinned)
  · intro hkept
    rcases profilePin_cases events with hnone | hkeeps
    · refine ⟨fun hlast => absurd ⟨hnone, hlast⟩ hkept, ?_⟩
      rintro ⟨pinned, hpinned, hother⟩
      exact ⟨pinned, getLast?_pinsOf_of_profilePin hpinned, hother⟩
    · rw [KeepsPin] at hkeeps
      rw [hkeeps]

/-- As long as no pin was made there is none. -/
theorem keepsPin_of_pinsOf_eq_nil (h : pinsOf events = []) : KeepsPin events := by
  rcases profilePin_cases events with hnone | hkeeps
  · rw [KeepsPin, hnone, h]
    rfl
  · exact hkeeps

/-- Without a change the profile has the pin that it had. -/
theorem profilePin_append_of_nil (h : writesOf later = []) :
    profilePin (events ++ later) = profilePin events := by
  rw [profilePin, writesOf_append, h, List.append_nil]
  rfl

/-- A pin that was kept stays if nothing changes it, and a change to a BSSID makes a new one. -/
theorem KeepsPin.append (h : KeepsPin events)
    (hlater : writesOf later = [] ∨ ∃ bssid, writesOf later = [some bssid]) :
    KeepsPin (events ++ later) := by
  rw [KeepsPin, profilePin, writesOf_append, pinsOf_append, pinsOf_eq_filterMap_writesOf later]
  rcases hlater with hnone | ⟨bssid, hone⟩
  · rw [hnone, List.filterMap_nil, List.append_nil, List.append_nil]
    exact h
  · rw [hone, List.getLast?_concat]
    exact List.getLast?_concat.symm

end Event

open Event

variable {σ : Type} {host : Host σ}

namespace Monitor

variable {m : Monitor} {s : σ} {link : AccessPoint} {move : Move} {moves : List Move}
  {events before after : List Event} {t : Trace σ (Except Failure Decision × Monitor)}

/-! ## The pin at the time of a report -/

theorem quiet_of_append_eq {quiet rest : List Event} {n : Notice} (hquiet : Quiet quiet)
    (hrest : reportsOf rest = []) (hn : n.isReport = true)
    (h : quiet ++ rest = before ++ .noted n :: after) : Quiet before := by
  rcases List.append_eq_append_iff.1 h with ⟨between, -, hsplit⟩ | ⟨tail, hsplit, -⟩
  · -- the report would come after the quiet part
    rw [hsplit, reportsOf, List.filterMap_eq_nil_iff] at hrest
    have hreport : report? (.noted n) = none :=
      hrest _ (List.mem_append_right _ List.mem_cons_self)
    rw [report?, if_pos hn] at hreport
    exact absurd hreport (Option.some_ne_none n)
  · rw [hsplit] at hquiet
    exact (quiet_append_iff.1 hquiet).1

/-- An iteration that reports on a link has left the machine as it is until then. -/
theorem Iteration.quiet_before_report {n : Notice} (h : Iteration host m s t)
    (hn : n.isReport = true) (hevents : t.events = before ++ .noted n :: after) : Quiet before := by
  cases h with
  | scanFailed hscan => exact quiet_of_append_eq quiet_nil rfl hn hevents
  | unassociated hswept hactive =>
      exact quiet_of_append_eq hswept.quiet_sweepEvents rfl hn
        ((List.append_nil _).trans hevents)
  | stayed hswept hactive hchoice =>
      exact quiet_of_append_eq hswept.quiet_judging rfl hn
        ((List.append_nil _).trans hevents)
  | wouldSwitch hswept hactive | pinFailed hswept hactive | restartFailed hswept hactive
  | switched hswept hactive =>
      exact quiet_of_append_eq hswept.quiet_judging rfl hn hevents

/-! ## Complaints of an iteration -/

/-- **An iteration complains exactly of a link other than the last pin.** -/
theorem Iteration.levelsOf_pinIgnored (h : Iteration host m s t) :
    ((∀ link, ¬ Reached t link) →
        levelsOf "associated access point differs from pinned bssid" t.events = [])
      ∧ ∀ link, Reached t link →
        (levelsOf "associated access point differs from pinned bssid" t.events = [.warn]
            ∧ ∃ pinned, m.lastPinned = some pinned ∧ pinned ≠ link.bssid)
          ∨ (levelsOf "associated access point differs from pinned bssid" t.events = []
            ∧ ∀ pinned, m.lastPinned = some pinned → pinned = link.bssid) := by
  rw [levelsOf_eq fun _ => isReport_of_text_pinIgnored]
  rcases h.reports_cases with ⟨hnone, hreports⟩ | ⟨link, hreached, hreports⟩ <;> rw [hreports]
  · exact ⟨fun _ => rfl, fun link hlink => absurd hlink (hnone link)⟩
  · refine ⟨fun hnone => absurd hreached (hnone link), fun link' hlink' => ?_⟩
    obtain rfl := Except.ok.inj (hreached.2.symm.trans hlink'.2)
    rw [linkReports]
    -- the report that follows has another text
    rcases m.pinNotice?_cases link with ⟨hnone, hsame⟩ | ⟨pinned, hsome, hpinned, hother⟩
    · rw [hnone]
      exact .inr ⟨rfl, hsame⟩
    · rw [hsome]
      exact .inl ⟨rfl, pinned, hpinned, hother⟩

/-! ## Histories that clear no pin -/

/-- An iteration changes no pin, or makes one. -/
theorem Iteration.writesOf_cases (h : Iteration host m s t) :
    writesOf t.events = [] ∨ ∃ bssid, writesOf t.events = [some bssid] := by
  rcases h.quiet_or_pinned with hquiet |
    ⟨rows, sweep, link, choice, reply, rest, hswept, -, -, -, -, hevents, hrest⟩
  · exact .inl (writesOf_eq_nil hquiet.not_pinned)
  · have hwrites : writesOf t.events = writesOf [.pinned (some choice.entry.bssid) reply] := by
      rw [hevents, List.append_cons, writesOf_append, writesOf_append, writesOf_eq_nil hrest,
        writesOf_eq_nil hswept.quiet_choosing.not_pinned, List.nil_append, List.append_nil]
    rw [hwrites]
    cases reply with
    | error failure => exact .inl rfl
    | ok done => exact .inr ⟨choice.entry.bssid, rfl⟩

/-- So does every move other than a start. -/
theorem writesOf_make_cases (host : Host σ) (m : Monitor) (s : σ) (hmove : .start ≠ move) :
    writesOf (m.make host move s).events = []
      ∨ ∃ bssid, writesOf (m.make host move s).events = [some bssid] := by
  cases move with
  | start => exact absurd rfl hmove
  | tick =>
      rw [make_tick]
      exact (iteration_iff.2 rfl : Iteration host m s (m.tick host s)).writesOf_cases
  | answer outcome =>
      rw [make_answer]
      exact .inl (writesOf_eq_nil (quiet_answer outcome s).not_pinned)
  | pause | stop => exact .inl rfl

/-- Moves that are no starts clear no pin. -/
theorem KeepsPin.makeAll (h : KeepsPin events) (hmoves : .start ∉ moves) :
    KeepsPin (events ++ (m.makeAll host moves s).events) := by
  induction moves generalizing m s events with
  | nil =>
      rw [Monitor.makeAll, Action.pure_apply, List.append_nil]
      exact h
  | cons move moves ih =>
      obtain ⟨hmove, hrest⟩ := not_or.1 (mt List.mem_cons.2 hmoves)
      rw [makeAll_cons, Trace.after, ← List.append_assoc]
      exact ih (h.append (writesOf_make_cases host m s hmove)) hrest

/-- **A history that starts at most at its beginning keeps the pin that was made last.** -/
theorem keepsPin_makeAll (host : Host σ) (m : Monitor) (s : σ) (hmoves : .start ∉ moves.tail) :
    KeepsPin (m.makeAll host moves s).events := by
  cases moves with
  | nil => rfl
  | cons move moves =>
      rw [makeAll_cons, Trace.after]
      refine KeepsPin.makeAll ?_ hmoves
      by_cases hmove : .start = move
      · refine keepsPin_of_pinsOf_eq_nil (pinsOf_make_of_ne_tick ?_)
        rw [← hmove]
        exact nofun
      · have hnone : KeepsPin [] := keepsPin_of_pinsOf_eq_nil rfl
        exact hnone.append (writesOf_make_cases host m s hmove)

/-- A loop does not start the monitor again. -/
theorem start_notMem_loopMoves (host : Host σ) (limit : Nat) (m : Monitor) (s : σ) :
    .start ∉ loopMoves host limit m s := by
  induction limit generalizing m s with
  | zero => exact List.not_mem_nil
  | succ limit ih =>
      rw [loopMoves]
      split_ifs with hwanted
      · -- what follows a step hangs on its cadence and on the flag after it
        rcases hcadence : (m.step host s).value.1 with failure | cadence
        · simp [hcadence]
        · cases hstill : host.isRunning (m.step host s).state with
          | true => simp [hcadence, hstill, ih]
          | false => simp [hcadence, hstill]
      · simp

/-- So a run starts the monitor at its beginning only. -/
theorem start_notMem_tail_moves_run (host : Host σ) (m : Monitor) (s : σ) (limit : Nat) :
    .start ∉ (m.moves host s [.run limit]).tail := by
  rw [moves, moves, movesOf, List.append_nil, List.tail_cons]
  rcases (m.start host s).value.1 with failure | phase
  · exact List.not_mem_nil
  · cases phase with
    | unavailable => exact List.not_mem_nil
    | starting | monitoring => exact start_notMem_loopMoves host limit _ _

/-- **No complaint is missed, and the false ones are of pins that were cleared.** A history is a
sequence of moves, and after any moves an iteration with a link complains of it exactly if the last
pin that was made is another BSSID. So it does whenever the profile is pinned to another BSSID. It
also does when the profile has no pin because a start cleared the one that was made last, and there
the complaint is false. It is never false if no start came after the first move, as in a run. The
pin is that of the moves before: an iteration changes none before it reports. -/
theorem complaints_follow_pins (settings : Settings) (dryRun : Bool) (host : Host σ) (s : σ) :
    let m := new settings dryRun
    (∀ ops, m.performAll host ops s = m.makeAll host (m.moves host s ops) s)
      ∧ (∀ limit, .start ∉ (m.moves host s [.run limit]).tail)
      ∧ ∀ past, let before := (m.makeAll host past s).events
        let ticked := m.tickAfter host s past
        let levels := levelsOf "associated access point differs from pinned bssid" ticked.events
        (∀ inner n after, ticked.events = inner ++ .noted n :: after → n.isReport = true →
            profilePin (before ++ inner) = profilePin before)
          ∧ ((∀ link, ¬ Reached ticked link) → levels = [])
          ∧ ∀ link, Reached ticked link →
            let due := ∃ pinned, profilePin before = some pinned ∧ pinned ≠ link.bssid
            let cleared := profilePin before = none
              ∧ ∃ pinned, (pinsOf before).getLast? = some pinned ∧ pinned ≠ link.bssid
            (levels = [.warn] ∨ levels = [])
              ∧ (levels = [.warn] ↔
                ∃ pinned, (pinsOf before).getLast? = some pinned ∧ pinned ≠ link.bssid)
              ∧ (due → levels = [.warn])
              ∧ ((levels = [.warn] ↔ due) ↔ ¬ cleared)
              ∧ (.start ∉ past.tail → (levels = [.warn] ↔ due)) := by
  intro m
  refine ⟨fun ops => performAll_eq_makeAll m ops s, start_notMem_tail_moves_run host m s, ?_⟩
  intro past before ticked levels
  have hticked : Iteration host _ _ ticked := iteration_tickAfter host m s past
  have htracks : (m.makeAll host past s).value.lastPinned = (pinsOf before).getLast? :=
    makeAll_induction (P := fun m events _ => m.Tracks events) [] (fun _ _ _ move h => h.make move)
      rfl
  obtain ⟨hunreported, hreported⟩ := hticked.levelsOf_pinIgnored
  refine ⟨?_, hunreported, ?_⟩
  · intro inner n after hevents hn
    exact profilePin_append_of_nil
      (writesOf_eq_nil (hticked.quiet_before_report hn hevents).not_pinned)
  · intro link hreached due cleared
    have hcases := hreported link hreached
    rw [htracks] at hcases
    have hlevels : levels = [.warn] ∨ levels = [] := hcases.imp And.left And.left
    have hwarned : levels = [.warn] ↔
        ∃ pinned, (pinsOf before).getLast? = some pinned ∧ pinned ≠ link.bssid := by
      rcases hcases with ⟨hwarn, hother⟩ | ⟨hnone, hsame⟩
      · exact iff_of_true hwarn hother
      · refine iff_of_false (fun hwarn => nomatch hwarn.symm.trans hnone) ?_
        rintro ⟨pinned, hpinned, hother⟩
        exact hother (hsame pinned hpinned)
    refine ⟨hlevels, hwarned, ?_, ?_, ?_⟩
    · rintro ⟨pinned, hpinned, hother⟩
      exact hwarned.2 ⟨pinned, getLast?_pinsOf_of_profilePin hpinned, hother⟩
    · rw [hwarned]
      exact lastPin_iff_profilePin before link.bssid
    · intro hstart
      have hkeeps : KeepsPin before := keepsPin_makeAll host m s hstart
      rw [KeepsPin] at hkeeps
      rw [hwarned, ← hkeeps]

/-- After a start has cleared the pin of an iteration, the next iteration complains of its link. -/
theorem cleared_pin_is_missed :
    let rows : List Observation :=
      [⟨true, "AA", "home", 50, 100⟩, ⟨false, "BB", "home", 65, 100⟩]
    let m := new Settings.default false
    let before := (m.makeAll .scripted [.tick, .start] [rows, rows]).events
    let ticked := m.tickAfter .scripted [rows, rows] [.tick, .start]
    (∃ link, Reached ticked link)
      ∧ profilePin before = none
      ∧ levelsOf "associated access point differs from pinned bssid" ticked.events = [.warn] := by
  intro rows m before ticked
  have hcourse : levelsOf "current link" ticked.events ≠ []
      ∧ profilePin before = none
      ∧ levelsOf "associated access point differs from pinned bssid" ticked.events = [.warn] := by
    decide +kernel
  obtain ⟨hreported, hcleared⟩ := hcourse
  exact ⟨(iteration_tickAfter _ m _ _).exists_reached hreported, hcleared⟩

end Monitor

end Roaming
