import Roaming.Monitor.Operation
import Roaming.Proofs.Startup

/-!
# The moves of a history

A history of operations on a monitor comes down to a sequence of *moves*: starts, iterations, the
answers to their outcomes, the pauses between them, and the end of a run. `moves` reads them off a
history, and `performAll_eq_makeAll` says that making them one after another is performing the
history, with the same events in the same order.

What holds along a history is then shown move by move. `makeAll_induction` is the induction, over a
monitor together with the events so far, and `exists_move_of_event` finds the move in which an
event happened, with the moves before it. Of all moves only starts and iterations change the
monitor (`make_of_idle`).
-/

namespace Roaming

namespace Trace

variable {σ α : Type}

/-- A trace that leaves a monitor, with nothing but the monitor as its value. -/
def monitor (t : Trace σ (α × Monitor)) : Trace σ Monitor :=
  ⟨t.value.2, t.events, t.state⟩

/-- A trace with some events before its own. -/
def after (t : Trace σ α) (events : List Event) : Trace σ α :=
  ⟨t.value, events ++ t.events, t.state⟩

theorem after_after (t : Trace σ α) (later earlier : List Event) :
    (t.after later).after earlier = t.after (earlier ++ later) := by
  rw [after, after, after, List.append_assoc]

/-- Where an action causes nothing the events are those before it. -/
theorem after_done (a : α) (s : σ) (events : List Event) :
    after ⟨a, [], s⟩ events = ⟨a, events, s⟩ := by
  rw [after, List.append_nil]

theorem monitor_after (t : Trace σ (α × Monitor)) (events : List Event) :
    (t.after events).monitor = t.monitor.after events := rfl

end Trace

theorem Action.bind_eq_after {σ α β : Type} (x : Action σ α) (f : α → Action σ β) (s : σ) :
    (x >>= f) s = (f (x s).value (x s).state).after (x s).events := rfl

theorem Host.stillWanted_bind {σ α : Type} (host : Host σ) (f : Bool → Action σ α) (s : σ) :
    (host.stillWanted >>= f) s = f (host.isRunning s) s := rfl

namespace Monitor

/-- What a monitor does between two moments at which it rests. -/
inductive Move where
  | start
  | tick
  | answer (outcome : Except Failure Decision)
  | pause (cadence : Cadence)
  /-- It ends a run that is no longer wanted. -/
  | stop

variable {σ : Type} (host : Host σ)

/-- Makes a move. -/
def make (m : Monitor) : Move → Action σ Monitor
  | .start => do
    let started ← m.start host
    return started.2
  | .tick => do
    let ticked ← m.tick host
    return ticked.2
  | .answer outcome => do
    let _ ← answer outcome
    return m
  | .pause cadence => do
    Action.note (.sleeping cadence (m.interval cadence))
    host.pause (m.interval cadence)
    return m
  | .stop => do
    Action.note .stopped
    return m

/-- Makes moves one after another. -/
def makeAll (m : Monitor) : List Move → Action σ Monitor
  | [] => pure m
  | move :: moves => do
    let moved ← m.make host move
    makeAll moved moves

/-- The moves of a loop. -/
def loopMoves : Nat → Monitor → σ → List Move
  | 0, _, _ => []
  | limit + 1, m, s =>
    if host.isRunning s then
      let stepped := m.step host s
      .tick :: .answer (m.tick host s).value.1 ::
        match stepped.value.1 with
        | .error _ => []
        | .ok cadence =>
          if host.isRunning stepped.state then
            .pause cadence ::
              loopMoves limit stepped.value.2 (host.sleep (m.interval cadence) stepped.state)
          else [.stop]
    else [.stop]

/-- The moves of an operation. -/
def movesOf (m : Monitor) (s : σ) : Operation → List Move
  | .start => [.start]
  | .tick => [.tick]
  | .step => [.tick, .answer (m.tick host s).value.1]
  | .run limit =>
    let started := m.start host s
    .start ::
      match started.value.1 with
      | .error _ => []
      | .ok .unavailable => []
      | .ok _ => loopMoves host limit started.value.2 started.state

/-- The moves of a history of operations. -/
def moves (m : Monitor) (s : σ) : List Operation → List Move
  | [] => []
  | op :: ops =>
    let performed := m.perform host op s
    m.movesOf host s op ++ moves performed.value.2 performed.state ops

/-- The events of a pause between two steps. -/
def pausing (m : Monitor) (cadence : Cadence) : List Event :=
  [.noted (.sleeping cadence (m.interval cadence)), .slept (m.interval cadence)]

/-! ## Making moves is performing operations -/

section Equations

variable {host} {m m' : Monitor} {s s' : σ} {events : List Event} {failure : Failure}
  {cadence : Cadence} {limit : Nat}

theorem make_start : m.make host .start s = (m.start host s).monitor := by
  rw [make, Action.bind_apply, Action.pure_apply, List.append_nil]
  rfl

theorem make_tick : m.make host .tick s = (m.tick host s).monitor := by
  rw [make, Action.bind_apply, Action.pure_apply, List.append_nil]
  rfl

theorem make_answer (outcome : Except Failure Decision) : m.make host (.answer outcome) s =
    ⟨m, (answer outcome s).events, (answer outcome s).state⟩ := by
  rw [make, Action.bind_apply, Action.pure_apply, List.append_nil]

theorem make_pause (cadence : Cadence) : m.make host (.pause cadence) s =
    ⟨m, [.noted (.sleeping cadence (m.interval cadence)), .slept (m.interval cadence)],
      host.sleep (m.interval cadence) s⟩ := rfl

theorem make_stop : m.make host .stop s = ⟨m, [.noted .stopped], s⟩ := rfl

theorem makeAll_cons (move : Move) (moves : List Move) : m.makeAll host (move :: moves) s =
    ((m.make host move s).value.makeAll host moves (m.make host move s).state).after
      (m.make host move s).events := rfl

theorem makeAll_singleton (move : Move) : m.makeAll host [move] s = m.make host move s := by
  show (m.make host move >>= pure) s = _
  rw [bind_pure]

theorem makeAll_append (moves later : List Move) : m.makeAll host (moves ++ later) s =
    ((m.makeAll host moves s).value.makeAll host later (m.makeAll host moves s).state).after
      (m.makeAll host moves s).events := by
  induction moves generalizing m s with
  | nil => rfl
  | cons move moves ih =>
      rw [List.cons_append, makeAll_cons, ih, Trace.after_after]
      rfl

theorem step_apply (m : Monitor) (s : σ) :
    m.step host s =
      let ticked := m.tick host s
      let answered := answer ticked.value.1 ticked.state
      ⟨(answered.value, ticked.value.2), ticked.events ++ answered.events, answered.state⟩ := by
  simp only [step, Action.bind_apply, Action.pure_apply, List.append_nil]

theorem makeAll_tick_answer (m : Monitor) (s : σ) (later : List Move) :
    m.makeAll host (.tick :: .answer (m.tick host s).value.1 :: later) s =
      ((m.step host s).value.2.makeAll host later (m.step host s).state).after
        (m.step host s).events := by
  rw [makeAll_cons, makeAll_cons, make_tick, make_answer, Trace.after_after, step_apply]
  rfl

/-- The settings stay through a step, and with them the length of the pause after it. -/
theorem interval_step (m : Monitor) (s : σ) (cadence : Cadence) :
    (m.step host s).value.2.interval cadence = m.interval cadence := by
  have hsettings : (m.step host s).value.2.settings = m.settings := by
    rw [step_apply]
    exact settings_tick m s
  cases cadence <;> rw [interval, interval, hsettings]

/-! ### The equations of a loop -/

/-- A loop that finds the flag cleared ends at once. -/
theorem loop_of_cleared (hcleared : host.isRunning s = false) (hlimit : 0 < limit) :
    m.loop host limit s = ⟨(some (.ok ()), m), [.noted .stopped], s⟩ := by
  cases limit with
  | zero => exact absurd hlimit (Nat.lt_irrefl 0)
  | succ limit =>
      rw [loop, Host.stillWanted_bind, hcleared]
      rfl

/-- A step that fails ends the loop. -/
theorem loop_of_error (hwanted : host.isRunning s = true)
    (hstep : m.step host s = ⟨(.error failure, m'), events, s'⟩) (hlimit : 0 < limit) :
    m.loop host limit s = ⟨(some (.error failure), m'), events, s'⟩ := by
  cases limit with
  | zero => exact absurd hlimit (Nat.lt_irrefl 0)
  | succ limit =>
      rw [loop, Host.stillWanted_bind, if_pos hwanted, Action.bind_eq_after, hstep]
      exact Trace.after_done _ _ _

/-- A step after which the flag is cleared ends the loop. -/
theorem loop_of_calledOff (hwanted : host.isRunning s = true)
    (hstep : m.step host s = ⟨(.ok cadence, m'), events, s'⟩)
    (hcleared : host.isRunning s' = false) (hlimit : 0 < limit) :
    m.loop host limit s = ⟨(some (.ok ()), m'), events ++ [.noted .stopped], s'⟩ := by
  cases limit with
  | zero => exact absurd hlimit (Nat.lt_irrefl 0)
  | succ limit =>
      rw [loop, Host.stillWanted_bind, if_pos hwanted, Action.bind_eq_after, hstep]
      show ((host.stillWanted >>= _) s').after events = _
      rw [Host.stillWanted_bind, hcleared]
      rfl

/-- Any other step is followed by the pause of its cadence, and the loop goes on. -/
theorem loop_of_ok (hwanted : host.isRunning s = true)
    (hstep : m.step host s = ⟨(.ok cadence, m'), events, s'⟩)
    (hstill : host.isRunning s' = true) (limit : Nat) :
    m.loop host (limit + 1) s =
      (m'.loop host limit (host.sleep (m.interval cadence) s')).after
        (events ++ m.pausing cadence) := by
  rw [loop, Host.stillWanted_bind, if_pos hwanted, Action.bind_eq_after, hstep]
  show ((host.stillWanted >>= _) s').after events = _
  rw [Host.stillWanted_bind, if_pos hstill, ← Trace.after_after]
  rfl

/-! ### Loops, operations and histories -/

/-- A loop makes its moves. -/
theorem loop_eq_makeAll (limit : Nat) (m : Monitor) (s : σ) :
    (m.loop host limit s).monitor = m.makeAll host (loopMoves host limit m s) s := by
  induction limit generalizing m s with
  | zero => rfl
  | succ limit ih =>
      rw [loopMoves]
      cases hwanted : host.isRunning s with
      | false =>
          rw [loop_of_cleared hwanted (Nat.succ_pos limit)]
          rfl
      | true =>
          rw [if_pos rfl, makeAll_tick_answer]
          -- both sides have the events of the step in front; what follows hangs on its cadence
          have hinterval : ∀ cadence, (m.step host s).value.2.interval cadence
              = m.interval cadence := interval_step m s
          rcases hstep : m.step host s with ⟨⟨failure | cadence, m'⟩, events, s'⟩
          · rw [loop_of_error hwanted hstep (Nat.succ_pos limit)]
            exact (Trace.after_done m' s' events).symm
          · rw [hstep] at hinterval
            cases hstill : host.isRunning s' with
            | false =>
                rw [loop_of_calledOff hwanted hstep hstill (Nat.succ_pos limit)]
                rfl
            | true =>
                rw [loop_of_ok hwanted hstep hstill, Trace.monitor_after, ih]
                show _ =
                  (m'.makeAll host (.pause cadence :: loopMoves host limit m' _) s').after events
                rw [makeAll_cons, make_pause, Trace.after_after, hinterval cadence]
                rfl

/-- An operation makes its moves. -/
theorem perform_eq_makeAll (m : Monitor) (op : Operation) (s : σ) :
    (m.perform host op s).monitor = m.makeAll host (m.movesOf host s op) s := by
  cases op with
  | start =>
      rw [movesOf, makeAll_singleton, make_start]
      rfl
  | tick =>
      rw [movesOf, makeAll_singleton, make_tick]
      rfl
  | step =>
      rw [movesOf, makeAll_tick_answer, makeAll, Action.pure_apply]
      show (m.step host s).monitor = ⟨_, _ ++ [], _⟩
      rw [List.append_nil]
      rfl
  | run limit =>
      show ((m.start host >>= _) s).monitor = _
      rw [movesOf, makeAll_cons, make_start, Action.bind_eq_after, Trace.monitor_after]
      congr 1
      rcases (m.start host s).value.1 with failure | phase
      · rfl
      · cases phase with
        | unavailable => rfl
        | starting | monitoring => exact loop_eq_makeAll limit _ _

/-- **A history of operations is its moves**: performing the operations and making the moves leave
the same monitor and the same state, through the same events. -/
theorem performAll_eq_makeAll (m : Monitor) (ops : List Operation) (s : σ) :
    m.performAll host ops s = m.makeAll host (m.moves host s ops) s := by
  induction ops generalizing m s with
  | nil => rfl
  | cons op ops ih =>
      rw [performAll, moves, makeAll_append, ← perform_eq_makeAll, Action.bind_eq_after, ih]
      rfl

end Equations

/-! ## Along a history -/

section Along

variable {host} {m : Monitor} {s : σ} {moves : List Move}

/-- What every move keeps, of a monitor, the events so far and the state, a history keeps. -/
theorem makeAll_induction {P : Monitor → List Event → σ → Prop} (events : List Event)
    (hmove : ∀ m events s move, P m events s →
      P (m.make host move s).value (events ++ (m.make host move s).events)
        (m.make host move s).state)
    (h : P m events s) :
    P (m.makeAll host moves s).value (events ++ (m.makeAll host moves s).events)
      (m.makeAll host moves s).state := by
  induction moves generalizing m s events with
  | nil =>
      rw [makeAll, Action.pure_apply, List.append_nil]
      exact h
  | cons move moves ih =>
      have hmade := ih _ (hmove m events s move h)
      rw [List.append_assoc] at hmade
      exact hmade

/-- What starts and iterations keep of a monitor, a history keeps. -/
theorem makeAll_keeps {P : Monitor → Prop}
    (hstart : ∀ m s, P m → P (m.start host s).value.2)
    (htick : ∀ m s, P m → P (m.tick host s).value.2) (h : P m) :
    P (m.makeAll host moves s).value := by
  refine makeAll_induction (P := fun m _ _ => P m) [] ?_ h
  intro m _ s move hm
  cases move with
  | start =>
      rw [make_start]
      exact hstart m s hm
  | tick =>
      rw [make_tick]
      exact htick m s hm
  | answer outcome =>
      rw [make_answer]
      exact hm
  | pause cadence => exact hm
  | stop => exact hm

theorem settings_makeAll (host : Host σ) (m : Monitor) (s : σ) (moves : List Move) :
    (m.makeAll host moves s).value.settings = m.settings := by
  refine makeAll_keeps (P := fun m' => m'.settings = m.settings) ?_ ?_ rfl
  · intro m' s h
    obtain ⟨phase, hphase⟩ := exists_phase_start host m' s
    rw [hphase]
    exact h
  · intro m' s h
    rw [settings_tick]
    exact h

theorem interval_makeAll (host : Host σ) (m : Monitor) (s : σ) (moves : List Move)
    (cadence : Cadence) : (m.makeAll host moves s).value.interval cadence = m.interval cadence := by
  cases cadence <;> rw [interval, interval, settings_makeAll]

end Along

/-! ## Moments of a history -/

/-- The moment of an event in a sequence of moves: the move in which it happened, the moves before
it, and the events of that move before and after it. -/
structure Moment (host : Host σ) (m : Monitor) (s : σ) (moves : List Move) (before : List Event)
    (event : Event) (after : List Event) where
  /-- The moves before. -/
  past : List Move
  /-- The move in which the event happened. -/
  move : Move
  /-- The moves after. -/
  later : List Move
  /-- The events of the move before the event. -/
  inner : List Event
  /-- The events of the move after the event. -/
  outer : List Event
  moves_eq : moves = past ++ move :: later
  made : ((m.makeAll host past s).value.make host move (m.makeAll host past s).state).events
    = inner ++ event :: outer
  before_eq : before = (m.makeAll host past s).events ++ inner
  after_eq : outer <+: after

namespace Moment

variable {host} {m : Monitor} {s : σ} {moves : List Move} {before after : List Event}
  {event : Event}

/-- What the moves before left. -/
def now (x : Moment host m s moves before event after) : Trace σ Monitor :=
  m.makeAll host x.past s

/-- The iteration made at a moment. -/
def ticked (x : Moment host m s moves before event after) :
    Trace σ (Except Failure Decision × Monitor) :=
  x.now.value.tick host x.now.state

theorem event_mem (x : Moment host m s moves before event after) :
    event ∈ (x.now.value.make host x.move x.now.state).events := by
  have hmade : (x.now.value.make host x.move x.now.state).events = x.inner ++ event :: x.outer :=
    x.made
  rw [hmade]
  exact List.mem_append_right _ List.mem_cons_self

theorem events_ticked {x : Moment host m s moves before event after} (h : x.move = .tick) :
    x.ticked.events = x.inner ++ event :: x.outer := by
  have hmade := x.made
  rw [h, make_tick] at hmade
  exact hmade

/-- A moment among the moves after the first one. -/
def ofRest {move : Move} {earlier : List Event}
    (x : Moment host (m.make host move s).value (m.make host move s).state moves earlier event
      after)
    (hbefore : before = (m.make host move s).events ++ earlier) :
    Moment host m s (move :: moves) before event after where
  past := move :: x.past
  move := x.move
  later := x.later
  inner := x.inner
  outer := x.outer
  moves_eq := congrArg (move :: ·) x.moves_eq
  made := x.made
  before_eq := by
    rw [makeAll_cons, Trace.after, List.append_assoc, ← x.before_eq]
    exact hbefore
  after_eq := x.after_eq

end Moment

/-- Every event of a history has its moment. -/
theorem exists_moment {host : Host σ} {m : Monitor} {s : σ} {moves : List Move}
    {before after : List Event} {event : Event}
    (h : (m.makeAll host moves s).events = before ++ event :: after) :
    Nonempty (Moment host m s moves before event after) := by
  induction moves generalizing m s before with
  | nil => exact absurd h (List.append_ne_nil_of_right_ne_nil _ (List.cons_ne_nil _ _)).symm
  | cons move moves ih =>
      rw [makeAll_cons] at h
      -- the event comes after the events of the first move, or it is among them
      rcases List.append_eq_append_iff.1 h with ⟨earlier, hbefore, hevents⟩ | ⟨tail, hmade, htail⟩
      · obtain ⟨x⟩ := ih hevents
        exact ⟨x.ofRest hbefore⟩
      · rcases List.cons_eq_append_iff.1 htail with ⟨rfl, hevents⟩ | ⟨outer, rfl, hafter⟩
        · have hrest : _ = [] ++ event :: after := hevents
          obtain ⟨x⟩ := ih hrest
          exact ⟨x.ofRest (by rw [hmade, List.append_nil, List.append_nil])⟩
        · exact ⟨⟨[], move, moves, before, outer, rfl, hmade, rfl, _, hafter.symm⟩⟩

end Monitor

end Roaming
