import Roaming.Proofs.Calls

/-!
# The course of a run

A run is a start and then steps with one pause between two of them, the pause being the interval of
the cadence that the step before it answered (`Paced`). `Course` lists the ways in which it can go,
and `course_iff` says that these are exactly the behaviours of `Monitor.run`.

The flag that keeps a run going may be cleared at any moment, within any call to the host. On a host
on which it stays cleared (`Host.StaysCleared`) there is at most one such moment in a run
(`Host.ClearedAt`), and where it falls settles the rest (`CalledOff`): what was running is
completed, and no step and no pause between steps follows. `course_of_run` is the main statement.
-/

namespace Roaming

open Event

/-! ## The moment at which the flag is cleared -/

namespace Host

variable {σ : Type} (host : Host σ)

/-- Whatever is asked of the host, the flag stays cleared. -/
def StaysCleared : Prop :=
  ∀ s event, host.isRunning s = false → host.isRunning (host.next s event) = false

/-- The flag is cleared when some events have happened, and never before that. -/
def ClearedAt (s : σ) (before : List Event) : Prop :=
  host.isRunning (host.stateAfter s before) = false
    ∧ ∀ earlier, earlier <+: before → earlier ≠ before →
      host.isRunning (host.stateAfter s earlier) = true

variable {host} {s : σ} {events later before : List Event}

theorem StaysCleared.isRunning_stateAfter (h : host.StaysCleared)
    (hcleared : host.isRunning s = false) (events : List Event) :
    host.isRunning (host.stateAfter s events) = false := by
  induction events generalizing s with
  | nil => exact hcleared
  | cons event events ih => exact ih (h s event hcleared)

/-- Events that include the moment leave the flag cleared. -/
theorem StaysCleared.isRunning_of_clearedAt (h : host.StaysCleared)
    (hbefore : host.ClearedAt s before) (hpre : before <+: events) :
    host.isRunning (host.stateAfter s events) = false := by
  obtain ⟨later, rfl⟩ := hpre
  rw [stateAfter_append]
  exact h.isRunning_stateAfter hbefore.1 later

/-- If the flag is cleared already, this is the moment. -/
theorem ClearedAt.eq_nil (h : host.ClearedAt s before) (hcleared : host.isRunning s = false) :
    before = [] := by
  by_contra hne
  have hrunning : host.isRunning s = true := h.2 [] List.nil_prefix fun heq => hne heq.symm
  exact nomatch hcleared.symm.trans hrunning

/-- A moment that comes after some events, seen from their end. -/
theorem ClearedAt.of_append (h : host.ClearedAt s (events ++ later)) :
    host.ClearedAt (host.stateAfter s events) later := by
  refine ⟨?_, ?_⟩
  · rw [← stateAfter_append]
    exact h.1
  · intro earlier hpre hne
    rw [← stateAfter_append]
    refine h.2 _ ((List.prefix_append_right_inj events).2 hpre) fun heq => hne ?_
    exact List.append_cancel_left heq

/-- The moment falls within the first events of some, which then leave the flag cleared, or it comes
after them. -/
theorem StaysCleared.within_or_after (h : host.StaysCleared) (hbefore : host.ClearedAt s before)
    (hpre : before <+: events ++ later) :
    (before <+: events ∧ host.isRunning (host.stateAfter s events) = false)
      ∨ ∃ rest, before = events ++ rest ∧ host.isRunning (host.stateAfter s events) = true
        ∧ host.ClearedAt (host.stateAfter s events) rest ∧ rest <+: later := by
  by_cases hwithin : before <+: events
  · exact .inl ⟨hwithin, h.isRunning_of_clearedAt hbefore hwithin⟩
  · obtain ⟨rest, rfl⟩ := (List.prefix_or_prefix_of_prefix hpre
      (List.prefix_append events later)).resolve_left hwithin
    refine .inr ⟨rest, rfl, ?_, hbefore.of_append, (List.prefix_append_right_inj events).1 hpre⟩
    refine hbefore.2 events (List.prefix_append events rest) fun heq => hwithin ?_
    exact ⟨[], (List.append_nil _).trans heq.symm⟩

/-- The flag is cleared within an event if it is up before and cleared after it. -/
theorem StaysCleared.clearedAt_concat (h : host.StaysCleared) {event : Event}
    (hup : host.isRunning (host.stateAfter s events) = true)
    (hcleared : host.isRunning (host.stateAfter s (events ++ [event])) = false) :
    host.ClearedAt s (events ++ [event]) := by
  refine ⟨hcleared, ?_⟩
  intro earlier hpre hne
  obtain ⟨rest, rfl⟩ := (List.prefix_concat_iff.1 hpre).resolve_left hne
  cases hearlier : host.isRunning (host.stateAfter s earlier) with
  | true => rfl
  | false =>
      rw [stateAfter_append] at hup
      exact nomatch hup.symm.trans (h.isRunning_stateAfter hearlier rest)

/-- A host whose flag is cleared by the last of a number of calls. Every call succeeds, and the
scans find nothing. -/
def countdown : Host Nat where
  isAvailable calls := (.ok true, calls - 1)
  scan calls := (.ok [], calls - 1)
  defaultGateway calls := (.ok none, calls - 1)
  probe _ _ _ calls := (.ok none, calls - 1)
  pin _ calls := (.ok (), calls - 1)
  restart calls := (.ok (), calls - 1)
  sleep _ calls := calls - 1
  isRunning calls := calls != 0

theorem staysCleared_countdown : countdown.StaysCleared := by
  intro calls event hcleared
  obtain rfl : calls = 0 := by simpa [countdown] using hcleared
  cases event <;> rfl

end Host

namespace Monitor

variable {σ : Type} {host : Host σ} {m m' : Monitor} {s s' : σ} {events : List Event}
  {failure : Failure} {cadence : Cadence} {limit : Nat}

theorem state_start (host : Host σ) (m : Monitor) (s : σ) :
    (m.start host s).state = host.stateAfter s (m.start host s).events :=
  (host.respects_answers.start s).2

theorem state_step (host : Host σ) (m : Monitor) (s : σ) :
    (m.step host s).state = host.stateAfter s (m.step host s).events :=
  (host.respects_answers.step s).2

/-! ## Steps with pauses between them -/

/-- A number of steps, each made while the flag was up and followed by the pause of its cadence. -/
inductive Paced (host : Host σ) : Nat → Monitor → σ → Trace σ Monitor → Prop where
  | none {m : Monitor} {s : σ} : Paced host 0 m s ⟨m, [], s⟩
  | next {m m' : Monitor} {s s' : σ} {count : Nat} {cadence : Cadence}
      {stepped : List Event} {later : Trace σ Monitor} (hwanted : host.isRunning s = true)
      (hstep : m.step host s = ⟨(.ok cadence, m'), stepped, s'⟩)
      (hstill : host.isRunning s' = true)
      (hlater : Paced host count m' (host.sleep (m.interval cadence) s') later) :
      Paced host (count + 1) m s (later.after (stepped ++ m.pausing cadence))

/-- After some steps a loop goes on from where they led. -/
theorem Paced.loop_eq {count : Nat} {t : Trace σ Monitor} (h : Paced host count m s t)
    (limit : Nat) :
    m.loop host (count + limit) s = (t.value.loop host limit t.state).after t.events := by
  induction h with
  | none =>
      rw [Nat.zero_add]
      rfl
  | next hwanted hstep hstill hlater ih =>
      rw [Nat.add_right_comm, loop_of_ok hwanted hstep hstill, ih, Trace.after_after]
      rfl

/-- The ways in which a loop can end at its next test of the flag or in its next step. -/
inductive Closing (host : Host σ) (m : Monitor) (s : σ) :
    Trace σ (Option (Except Failure Unit) × Monitor) → Prop where
  /-- The flag is cleared already. -/
  | calledOff (hcleared : host.isRunning s = false) :
      Closing host m s ⟨(some (.ok ()), m), [.noted .stopped], s⟩
  /-- The flag is cleared within the step. -/
  | calledOffInStep {m' : Monitor} {s' : σ} {cadence : Cadence} {stepped : List Event}
      (hwanted : host.isRunning s = true) (hstep : m.step host s = ⟨(.ok cadence, m'), stepped, s'⟩)
      (hcleared : host.isRunning s' = false) :
      Closing host m s ⟨(some (.ok ()), m'), stepped ++ [.noted .stopped], s'⟩
  /-- The step fails. -/
  | failed {m' : Monitor} {s' : σ} {failure : Failure} {stepped : List Event}
      (hwanted : host.isRunning s = true)
      (hstep : m.step host s = ⟨(.error failure, m'), stepped, s'⟩) :
      Closing host m s ⟨(some (.error failure), m'), stepped, s'⟩

/-- A loop that makes at most `limit` steps ends after some of them, or it makes them all. -/
inductive Looping (host : Host σ) (limit : Nat) (m : Monitor) (s : σ) :
    Trace σ (Option (Except Failure Unit) × Monitor) → Prop where
  | ended {count : Nat} {paced : Trace σ Monitor}
      {closing : Trace σ (Option (Except Failure Unit) × Monitor)}
      (hpaced : Paced host count m s paced) (hlimit : count < limit)
      (hclosing : Closing host paced.value paced.state closing) :
      Looping host limit m s (closing.after paced.events)
  | ongoing {paced : Trace σ Monitor} (hpaced : Paced host limit m s paced) :
      Looping host limit m s ⟨(none, paced.value), paced.events, paced.state⟩

variable {t : Trace σ (Option (Except Failure Unit) × Monitor)}

theorem Closing.loop_eq (h : Closing host m s t) (hlimit : 0 < limit) :
    m.loop host limit s = t := by
  cases h with
  | calledOff hcleared => exact loop_of_cleared hcleared hlimit
  | calledOffInStep hwanted hstep hcleared => exact loop_of_calledOff hwanted hstep hcleared hlimit
  | failed hwanted hstep => exact loop_of_error hwanted hstep hlimit

theorem Looping.loop_eq (h : Looping host limit m s t) : m.loop host limit s = t := by
  cases h with
  | ended hpaced hlimit hclosing =>
      obtain ⟨rest, rfl⟩ := Nat.exists_eq_add_of_lt hlimit
      rw [Nat.add_assoc, hpaced.loop_eq, hclosing.loop_eq (Nat.succ_pos rest)]
  | @ongoing paced hpaced =>
      have hloop := hpaced.loop_eq 0
      rw [Nat.add_zero] at hloop
      rw [hloop]
      show (⟨_, paced.events ++ [], _⟩ : Trace σ _) = _
      rw [List.append_nil]
      rfl

/-- A step and its pause in front of a loop. -/
theorem Looping.cons (hwanted : host.isRunning s = true)
    (hstep : m.step host s = ⟨(.ok cadence, m'), events, s'⟩) (hstill : host.isRunning s' = true)
    (h : Looping host limit m' (host.sleep (m.interval cadence) s') t) :
    Looping host (limit + 1) m s (t.after (events ++ m.pausing cadence)) := by
  cases h with
  | ended hpaced hlimit hclosing =>
      rw [Trace.after_after]
      exact .ended (.next hwanted hstep hstill hpaced) (Nat.succ_lt_succ hlimit) hclosing
  | ongoing hpaced => exact .ongoing (.next hwanted hstep hstill hpaced)

/-- Every loop goes in one of these ways. -/
theorem exists_looping (host : Host σ) (limit : Nat) (m : Monitor) (s : σ) :
    ∃ t, Looping host limit m s t := by
  induction limit generalizing m s with
  | zero => exact ⟨_, .ongoing .none⟩
  | succ limit ih =>
      have hclosed {t} (h : Closing host m s t) : ∃ t, Looping host (limit + 1) m s t :=
        ⟨_, .ended .none (Nat.succ_pos limit) h⟩
      cases hwanted : host.isRunning s with
      | false => exact hclosed (.calledOff hwanted)
      | true =>
          rcases hstep : m.step host s with ⟨⟨failure | cadence, m'⟩, events, s'⟩
          · exact hclosed (.failed hwanted hstep)
          · cases hstill : host.isRunning s' with
            | false => exact hclosed (.calledOffInStep hwanted hstep hstill)
            | true =>
                obtain ⟨t, ht⟩ := ih m' (host.sleep (m.interval cadence) s')
                exact ⟨_, .cons hwanted hstep hstill ht⟩

/-! ## The course of a run -/

/-- The ways in which a run that makes at most `limit` steps can go. -/
inductive Course (host : Host σ) (limit : Nat) (m : Monitor) (s : σ) :
    Trace σ (Option (Except Failure Unit) × Monitor) → Prop where
  /-- The start fails, and the run with it. -/
  | startFailed {m' : Monitor} {s' : σ} {failure : Failure} {started : List Event}
      (hstart : m.start host s = ⟨(.error failure, m'), started, s'⟩) :
      Course host limit m s ⟨(some (.error failure), m'), started, s'⟩
  /-- There is no wireless profile to manage. -/
  | unavailable {m' : Monitor} {s' : σ} {started : List Event}
      (hstart : m.start host s = ⟨(.ok .unavailable, m'), started, s'⟩) :
      Course host limit m s ⟨(some (.ok ()), m'), started, s'⟩
  /-- The steps and pauses follow. -/
  | monitored {m' : Monitor} {s' : σ} {started : List Event}
      {looped : Trace σ (Option (Except Failure Unit) × Monitor)}
      (hstart : m.start host s = ⟨(.ok .monitoring, m'), started, s'⟩)
      (hlooped : Looping host limit m' s' looped) :
      Course host limit m s (looped.after started)

theorem run_of_error (hstart : m.start host s = ⟨(.error failure, m'), events, s'⟩) (limit : Nat) :
    m.run host limit s = ⟨(some (.error failure), m'), events, s'⟩ := by
  rw [run, Action.bind_eq_after, hstart]
  exact Trace.after_done _ _ _

theorem run_of_unavailable (hstart : m.start host s = ⟨(.ok .unavailable, m'), events, s'⟩)
    (limit : Nat) : m.run host limit s = ⟨(some (.ok ()), m'), events, s'⟩ := by
  rw [run, Action.bind_eq_after, hstart]
  exact Trace.after_done _ _ _

theorem run_of_monitoring (hstart : m.start host s = ⟨(.ok .monitoring, m'), events, s'⟩)
    (limit : Nat) : m.run host limit s = (m'.loop host limit s').after events := by
  rw [run, Action.bind_eq_after, hstart]

theorem Course.run_eq (h : Course host limit m s t) : m.run host limit s = t := by
  cases h with
  | startFailed hstart => exact run_of_error hstart limit
  | unavailable hstart => exact run_of_unavailable hstart limit
  | monitored hstart hlooped => rw [run_of_monitoring hstart, hlooped.loop_eq]

/-- A start that succeeds finds no profile or a monitor that is to iterate. -/
theorem start_cases (host : Host σ) (m : Monitor) (s : σ) :
    (∃ failure m' events s', m.start host s = ⟨(.error failure, m'), events, s'⟩)
      ∨ (∃ m' events s', m.start host s = ⟨(.ok .unavailable, m'), events, s'⟩
          ∧ callsOf events = [.asked (.ok false)])
      ∨ ∃ m' events s', m.start host s = ⟨(.ok .monitoring, m'), events, s'⟩ := by
  obtain ⟨t, ht⟩ := exists_startup host m s
  rw [ht.start_eq]
  cases ht with
  | unanswered | unpinFailed | restartFailed => exact .inl ⟨_, _, _, _, rfl⟩
  | unavailable => exact .inr (.inl ⟨_, _, _, rfl, rfl⟩)
  | leftAlone | cleared => exact .inr (.inr ⟨_, _, _, rfl⟩)

/-- **The ways of a run are what a run does**, neither more nor less. -/
theorem course_iff : Course host limit m s t ↔ m.run host limit s = t := by
  constructor
  · intro h
    exact h.run_eq
  · rintro rfl
    rcases start_cases host m s with
      ⟨_, _, _, _, hstart⟩ | ⟨_, _, _, hstart, -⟩ | ⟨m', _, s', hstart⟩
    · rw [run_of_error hstart]
      exact .startFailed hstart
    · rw [run_of_unavailable hstart]
      exact .unavailable hstart
    · obtain ⟨looped, hlooped⟩ := exists_looping host limit m' s'
      rw [run_of_monitoring hstart, hlooped.loop_eq]
      exact .monitored hstart hlooped

/-! ## Runs that are called off -/

variable {before : List Event}

/-- If the flag is up after a step, it is not cleared before the end of the pause. -/
theorem exists_later_of_pausing (hstays : host.StaysCleared) {rest : List Event}
    (hstill : host.isRunning (host.stateAfter s events) = true) (hbefore : host.ClearedAt s before)
    (hpre : before <+: events ++ m.pausing cadence ++ rest) :
    ∃ later, before = events ++ m.pausing cadence ++ later ∧ later <+: rest := by
  -- the notice in front of the pause leaves the flag as it is
  rw [pausing, List.append_cons, List.append_assoc] at hpre
  rcases hstays.within_or_after hbefore hpre with ⟨-, hcleared⟩ | ⟨later, rfl, hup, hafter, hlater⟩
  · rw [Host.stateAfter_append] at hcleared
    exact nomatch hstill.symm.trans hcleared
  · cases later with
    | nil => exact nomatch hup.symm.trans hafter.1
    | cons event later =>
        obtain ⟨rfl, hrest⟩ := List.cons_prefix_cons.1 hlater
        exact ⟨later, by simp [pausing], hrest⟩

/-- The flag is up at every test between steps that were made, so it is not cleared before the end
of the last pause. -/
theorem Paced.exists_later (hstays : host.StaysCleared) {count : Nat} {paced : Trace σ Monitor}
    (h : Paced host count m s paced) {rest : List Event} (hbefore : host.ClearedAt s before)
    (hpre : before <+: paced.events ++ rest) :
    ∃ later, before = paced.events ++ later ∧ later <+: rest
      ∧ host.ClearedAt paced.state later := by
  induction h generalizing before with
  | none => exact ⟨before, rfl, hpre, hbefore⟩
  | @next m m' s s' count cadence stepped later hwanted hstep hstill hlater ih =>
      have hstate := state_step host m s
      rw [hstep] at hstate
      have hslept : host.stateAfter s (stepped ++ m.pausing cadence)
          = host.sleep (m.interval cadence) s' := by
        rw [Host.stateAfter_append, ← hstate]
        rfl
      rw [Trace.after, List.append_assoc] at hpre
      obtain ⟨after, rfl, hafter⟩ := exists_later_of_pausing hstays (hstate ▸ hstill) hbefore hpre
      have hcleared := hbefore.of_append
      rw [hslept] at hcleared
      obtain ⟨last, rfl, hlast, hmoment⟩ := ih hcleared hafter
      exact ⟨last, (List.append_assoc _ _ _).symm, hlast, hmoment⟩

/-- The ways in which a loop ends when the flag is cleared at a moment of it: what was running is
completed, and no step and no pause follows. -/
inductive Interrupted (host : Host σ) (m : Monitor) (s : σ) :
    List Event → Trace σ (Option (Except Failure Unit) × Monitor) → Prop where
  /-- The flag is cleared before the next step: before the first one, or within a pause. -/
  | between {count : Nat} {paced : Trace σ Monitor} (hpaced : Paced host count m s paced)
      (hcleared : host.isRunning paced.state = false) :
      Interrupted host m s paced.events
        (Trace.after ⟨(some (.ok ()), paced.value), [.noted .stopped], paced.state⟩ paced.events)
  /-- It is cleared within a step. -/
  | inStep {count : Nat} {paced : Trace σ Monitor} {m' : Monitor} {s' : σ} {cadence : Cadence}
      {inner outer : List Event} (hpaced : Paced host count m s paced)
      (hwanted : host.isRunning paced.state = true)
      (hstep : paced.value.step host paced.state = ⟨(.ok cadence, m'), inner ++ outer, s'⟩) :
      Interrupted host m s (paced.events ++ inner)
        (Trace.after ⟨(some (.ok ()), m'), inner ++ outer ++ [.noted .stopped], s'⟩ paced.events)
  /-- It is cleared within a step that fails. -/
  | inFailingStep {count : Nat} {paced : Trace σ Monitor} {m' : Monitor} {s' : σ}
      {failure : Failure} {inner outer : List Event} (hpaced : Paced host count m s paced)
      (hwanted : host.isRunning paced.state = true)
      (hstep : paced.value.step host paced.state = ⟨(.error failure, m'), inner ++ outer, s'⟩) :
      Interrupted host m s (paced.events ++ inner)
        (Trace.after ⟨(some (.error failure), m'), inner ++ outer, s'⟩ paced.events)

/-- A loop that ends after some steps is interrupted where the flag is cleared. -/
theorem Closing.interrupted (hstays : host.StaysCleared) {count : Nat} {paced : Trace σ Monitor}
    (h : Closing host paced.value paced.state t) (hpaced : Paced host count m s paced)
    (hbefore : host.ClearedAt paced.state before) (hpre : before <+: t.events) :
    Interrupted host m s (paced.events ++ before) (t.after paced.events) := by
  cases h with
  | calledOff hcleared =>
      obtain rfl := hbefore.eq_nil hcleared
      rw [List.append_nil]
      exact .between hpaced hcleared
  | @calledOffInStep m' s' cadence stepped hwanted hstep hcleared =>
      have hstate := state_step host paced.value paced.state
      rw [hstep] at hstate
      rcases hstays.within_or_after hbefore hpre with ⟨⟨outer, rfl⟩, -⟩ | ⟨_, _, hup, -⟩
      · exact .inStep hpaced hwanted hstep
      · rw [← hstate] at hup
        exact nomatch hcleared.symm.trans hup
  | failed hwanted hstep =>
      obtain ⟨outer, rfl⟩ := hpre
      exact .inFailingStep hpaced hwanted hstep

/-- **Once the flag is cleared a loop ends**: however many steps are allowed, it ends in the same
way, with the completion of what was running. -/
theorem exists_interrupted (hstays : host.StaysCleared) (hbefore : host.ClearedAt s before)
    (hpre : before <+: (m.loop host limit s).events) :
    ∃ t, Interrupted host m s before t ∧ ∀ more, limit < more → m.loop host more s = t := by
  obtain ⟨looped, hlooped⟩ := exists_looping host limit m s
  rw [hlooped.loop_eq] at hpre
  cases hlooped with
  | ended hpaced hlimit hclosing =>
      obtain ⟨later, rfl, hlater, hmoment⟩ := hpaced.exists_later hstays hbefore hpre
      refine ⟨_, hclosing.interrupted hstays hpaced hmoment hlater, ?_⟩
      intro more hmore
      exact (Looping.ended hpaced (Nat.lt_trans hlimit hmore) hclosing).loop_eq
  | @ongoing paced hpaced =>
      rw [← List.append_nil (Trace.events _)] at hpre
      obtain ⟨later, rfl, hlater, hmoment⟩ := hpaced.exists_later hstays hbefore hpre
      obtain rfl := List.prefix_nil.1 hlater
      have hclosing : Closing host paced.value paced.state _ := .calledOff hmoment.1
      refine ⟨_, hclosing.interrupted hstays hpaced hmoment List.nil_prefix, ?_⟩
      intro more hmore
      exact (Looping.ended hpaced hmore hclosing).loop_eq

/-- The ways in which a run ends when the flag is cleared at a moment of it. -/
inductive CalledOff (host : Host σ) (m : Monitor) (s : σ) :
    List Event → Trace σ (Option (Except Failure Unit) × Monitor) → Prop where
  /-- The flag is cleared before the run or within its start: no step is made. -/
  | inStart {m' : Monitor} {s' : σ} {inner outer : List Event}
      (hstart : m.start host s = ⟨(.ok .monitoring, m'), inner ++ outer, s'⟩) :
      CalledOff host m s inner ⟨(some (.ok ()), m'), inner ++ outer ++ [.noted .stopped], s'⟩
  /-- There is no step to make. -/
  | inVain {m' : Monitor} {s' : σ} {inner outer : List Event}
      (hstart : m.start host s = ⟨(.ok .unavailable, m'), inner ++ outer, s'⟩) :
      CalledOff host m s inner ⟨(some (.ok ()), m'), inner ++ outer, s'⟩
  /-- The start fails. -/
  | inFailingStart {m' : Monitor} {s' : σ} {failure : Failure} {inner outer : List Event}
      (hstart : m.start host s = ⟨(.error failure, m'), inner ++ outer, s'⟩) :
      CalledOff host m s inner ⟨(some (.error failure), m'), inner ++ outer, s'⟩
  /-- The flag is cleared after the start. -/
  | inLoop {m' : Monitor} {s' : σ} {started before : List Event}
      {looped : Trace σ (Option (Except Failure Unit) × Monitor)}
      (hstart : m.start host s = ⟨(.ok .monitoring, m'), started, s'⟩)
      (hwanted : host.isRunning s' = true) (hlooped : Interrupted host m' s' before looped) :
      CalledOff host m s (started ++ before) (looped.after started)

/-- **Once the flag is cleared a run ends**: however many steps are allowed, it ends in the same
way, with the completion of what was running. -/
theorem exists_calledOff (hstays : host.StaysCleared) (hbefore : host.ClearedAt s before)
    (hpre : before <+: (m.run host limit s).events) :
    ∃ t, CalledOff host m s before t ∧ ∀ more, limit < more → m.run host more s = t := by
  have hstate := state_start host m s
  rcases start_cases host m s with
    ⟨_, _, _, _, hstart⟩ | ⟨_, _, _, hstart, -⟩ | ⟨m', started, s', hstart⟩
  · rw [run_of_error hstart] at hpre
    obtain ⟨outer, rfl⟩ := hpre
    exact ⟨_, .inFailingStart hstart, fun more _ => run_of_error hstart more⟩
  · rw [run_of_unavailable hstart] at hpre
    obtain ⟨outer, rfl⟩ := hpre
    exact ⟨_, .inVain hstart, fun more _ => run_of_unavailable hstart more⟩
  · rw [run_of_monitoring hstart] at hpre
    rw [hstart] at hstate
    rcases hstays.within_or_after hbefore hpre with
      ⟨⟨outer, rfl⟩, hcleared⟩ | ⟨later, rfl, hup, hafter, hlater⟩
    · rw [← hstate] at hcleared
      refine ⟨_, .inStart hstart, ?_⟩
      intro more hmore
      rw [run_of_monitoring hstart, loop_of_cleared hcleared (Nat.zero_lt_of_lt hmore)]
      rfl
    · rw [← hstate] at hup hafter
      obtain ⟨t, ht, hends⟩ := exists_interrupted hstays hafter hlater
      refine ⟨_, .inLoop hstart hup ht, ?_⟩
      intro more hmore
      rw [run_of_monitoring hstart, hends more hmore]

/-! ## One step only -/

theorem runOnce_of_error (hstart : m.start host s = ⟨(.error failure, m'), events, s'⟩) :
    m.runOnce host s = ⟨(.error failure, m'), events, s'⟩ := by
  rw [runOnce, Action.bind_eq_after, hstart]
  exact Trace.after_done _ _ _

theorem runOnce_of_unavailable
    (hstart : m.start host s = ⟨(.ok .unavailable, m'), events, s'⟩) :
    m.runOnce host s = ⟨(.ok (), m'), events, s'⟩ := by
  rw [runOnce, Action.bind_eq_after, hstart]
  exact Trace.after_done _ _ _

theorem runOnce_of_monitoring
    (hstart : m.start host s = ⟨(.ok .monitoring, m'), events, s'⟩) :
    m.runOnce host s =
      let stepped := m'.step host s'
      ⟨(stepped.value.1.map fun _ => (), stepped.value.2), events ++ stepped.events,
        stepped.state⟩ := by
  rw [runOnce, Action.bind_eq_after, hstart]
  show Trace.after ((m'.step host >>= _) s') events = _
  rw [Action.bind_eq_after]
  show (⟨_, events ++ (_ ++ []), _⟩ : Trace σ _) = _
  rw [List.append_nil]
  rfl

/-- A run whose flag is cleared within its first step does what a start and one step do. -/
theorem run_eq_runOnce
    (hfirst : (m.start host s).value.1 = .ok .monitoring →
      host.isRunning (m.start host s).state = true
        ∧ host.isRunning (m.runOnce host s).state = false) (hlimit : 0 < limit) :
    let ran := m.run host limit s
    let once := m.runOnce host s
    ran.value = (some once.value.1, once.value.2) ∧ callsOf ran.events = callsOf once.events
      ∧ ran.state = once.state := by
  intro ran once
  rcases start_cases host m s with
    ⟨_, _, _, _, hstart⟩ | ⟨_, _, _, hstart, -⟩ | ⟨m', started, s', hstart⟩
  · have hran : ran = _ := run_of_error hstart _
    have honce : once = _ := runOnce_of_error hstart
    rw [hran, honce]
    exact ⟨rfl, rfl, rfl⟩
  · have hran : ran = _ := run_of_unavailable hstart _
    have honce : once = _ := runOnce_of_unavailable hstart
    rw [hran, honce]
    exact ⟨rfl, rfl, rfl⟩
  · have honce : once = _ := runOnce_of_monitoring hstart
    have hran : ran = _ := run_of_monitoring hstart _
    obtain ⟨hwanted, hcleared⟩ := hfirst (by rw [hstart])
    rw [hstart] at hwanted
    change host.isRunning once.state = false at hcleared
    rcases hstep : m'.step host s' with ⟨⟨failure | cadence, m''⟩, stepped, s''⟩
    · rw [hstep] at honce
      rw [hran, honce, loop_of_error hwanted hstep hlimit]
      exact ⟨rfl, rfl, rfl⟩
    · rw [hstep] at honce
      rw [honce] at hcleared
      rw [hran, honce, loop_of_calledOff hwanted hstep hcleared hlimit]
      refine ⟨rfl, ?_, rfl⟩
      show callsOf (started ++ (stepped ++ [.noted .stopped])) = callsOf (started ++ stepped)
      rw [← List.append_assoc, callsOf_append]
      exact List.append_nil _

/-! ## The main statement -/

/-- **The course of a run**, on a host whose flag stays cleared once it is cleared:

* a run goes in one of the ways of `Course`;
* wherever the flag is cleared, the run is called off there: it completes what was running;
* if there is no wireless profile it succeeds, and asking for the profile is its only call;
* if the flag is cleared within the first step it does what a start and one step do. -/
theorem course_of_run (host : Host σ) (hstays : host.StaysCleared) (m : Monitor) (s : σ) :
    (∀ limit t, Course host limit m s t ↔ m.run host limit s = t)
      ∧ (∀ limit before, host.ClearedAt s before → before <+: (m.run host limit s).events →
          ∃ t, CalledOff host m s before t ∧ ∀ more, limit < more → m.run host more s = t)
      ∧ ((m.start host s).value.1 = .ok .unavailable → ∀ limit,
          (m.run host limit s).value.1 = some (.ok ())
            ∧ callsOf (m.run host limit s).events = [.asked (.ok false)])
      ∧ (((m.start host s).value.1 = .ok .monitoring →
            host.isRunning (m.start host s).state = true
              ∧ host.isRunning (m.runOnce host s).state = false) →
          ∀ limit, 0 < limit →
            let ran := m.run host limit s
            let once := m.runOnce host s
            ran.value = (some once.value.1, once.value.2)
              ∧ callsOf ran.events = callsOf once.events ∧ ran.state = once.state) := by
  refine ⟨fun limit t => course_iff, fun limit before => exists_calledOff hstays, ?_,
    fun hfirst limit => run_eq_runOnce hfirst⟩
  intro hunavailable limit
  rcases start_cases host m s with
    ⟨_, _, _, _, hstart⟩ | ⟨_, _, _, hstart, hcalls⟩ | ⟨_, _, _, hstart⟩
  · rw [hstart] at hunavailable
    exact nomatch hunavailable
  · rw [run_of_unavailable hstart]
    exact ⟨rfl, hcalls⟩
  · rw [hstart] at hunavailable
    exact nomatch hunavailable

/-- The flag is cleared by the fifth call, the scan of the first step. -/
theorem course_of_run_called_off_in_scan :
    let m := new Settings.default false
    let once := m.runOnce .countdown 5
    Host.countdown.StaysCleared
      ∧ (∃ t, CalledOff .countdown m 5 ((m.start .countdown 5).events ++ [.scanned (.ok [])]) t
        ∧ ∀ more, 1 < more → m.run .countdown more 5 = t)
      ∧ (m.run .countdown 1 5).value = (some once.value.1, once.value.2)
      ∧ callsOf (m.run .countdown 1 5).events = callsOf once.events := by
  intro m once
  obtain ⟨-, hmoment, -, honce⟩ := course_of_run .countdown Host.staysCleared_countdown m 5
  have hcleared : Host.countdown.ClearedAt 5
      ((m.start .countdown 5).events ++ [.scanned (.ok [])]) :=
    Host.staysCleared_countdown.clearedAt_concat rfl rfl
  have hpre : (m.start .countdown 5).events ++ [.scanned (.ok [])]
      <+: (m.run .countdown 1 5).events := by
    rw [run, Action.bind_eq_after]
    exact (List.prefix_append_right_inj _).2 ⟨_, rfl⟩
  obtain ⟨hvalue, hcalls, -⟩ := honce (fun _ => ⟨by decide, by decide⟩) 1 Nat.one_pos
  exact ⟨Host.staysCleared_countdown, hmoment 1 _ hcleared hpre, hvalue, hcalls⟩

end Monitor

end Roaming
