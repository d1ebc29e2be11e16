import Roaming.NetworkManager
import Roaming.Proofs.Effects
import Roaming.Proofs.History

/-!
# The commands of a history

A host is asked one question at a time, so a relation between states and the events between them
that no single question breaks holds from the start to the end of every history
(`Host.Respects.performAll`).

For the host that is driven by command-line tools the relation of interest is the log of commands:
the commands that a history ran are those behind its events, but for the ones that could not even be
tried (`log_performAll`). A command that changes anything stands behind a pin or a restart
(`exists_of_isChange`).
-/

namespace Roaming

/-! ## What no question breaks -/

/-- A relation between two states and the events between them that no single question breaks. -/
structure Host.Respects {σ : Type} (host : Host σ) (R : σ → List Event → σ → Prop) : Prop where
  refl : ∀ s, R s [] s
  trans : ∀ {s s' s'' events later}, R s events s' → R s' later s'' → R s (events ++ later) s''
  asked : ∀ s, R s [.asked (host.isAvailable s).1] (host.isAvailable s).2
  scanned : ∀ s, R s [.scanned (host.scan s).1] (host.scan s).2
  lookedUp : ∀ s, R s [.lookedUp (host.defaultGateway s).1] (host.defaultGateway s).2
  probed : ∀ gateway count deadline s,
    R s [.probed gateway count deadline (host.probe gateway count deadline s).1]
      (host.probe gateway count deadline s).2
  pinned : ∀ bssid s, R s [.pinned bssid (host.pin bssid s).1] (host.pin bssid s).2
  restarted : ∀ s, R s [.restarted (host.restart s).1] (host.restart s).2
  slept : ∀ pause s, R s [.slept pause] (host.sleep pause s)
  noted : ∀ n s, R s [.noted n] s

/-- An action whose events lead from state to state as a relation says. -/
def Action.Leads {σ α : Type} (R : σ → List Event → σ → Prop) (x : Action σ α) : Prop :=
  ∀ s, R s (x s).events (x s).state

namespace Host.Respects

variable {σ α β : Type} {host : Host σ} {R : σ → List Event → σ → Prop} {m : Monitor}

theorem pure (h : host.Respects R) (a : α) : Action.Leads R (Pure.pure a) := by
  intro s
  exact h.refl s

theorem bind (h : host.Respects R) {x : Action σ α} {f : α → Action σ β} (hx : Action.Leads R x)
    (hf : ∀ a, Action.Leads R (f a)) : Action.Leads R (x >>= f) := by
  intro s
  exact h.trans (hx s) (hf _ _)

theorem note (h : host.Respects R) (n : Notice) : Action.Leads R (Action.note n) :=
  h.noted n

theorem noteAny (h : host.Respects R) (n : Option Notice) : Action.Leads R (Action.noteAny n) := by
  cases n with
  | none => exact h.pure ()
  | some n => exact h.note n

theorem noteEach (h : host.Respects R) (f : α → Notice) (as : List α) :
    Action.Leads R (Action.noteEach f as) := by
  induction as with
  | nil => exact h.pure ()
  | cons a as ih => exact h.bind (h.note (f a)) fun _ => ih

/-! ### Through an iteration -/

theorem measure (h : host.Respects R) (pings : UInt32) :
    Action.Leads R (Latency.measure host pings) := by
  refine h.bind h.lookedUp fun reply => ?_
  rcases reply with failure | _ | gateway
  · exact h.bind (h.note _) fun _ => h.pure _
  · exact h.bind (h.note _) fun _ => h.pure _
  · refine h.bind (h.probed _ _ _) fun reply => ?_
    rcases reply with failure | _ | times <;> exact h.bind (h.note _) fun _ => h.pure _

theorem refresh (h : host.Respects R) {measure : Action σ Float} (hmeasure : Action.Leads R measure)
    (r : Registry) (rows : List Observation) : Action.Leads R (r.refresh measure rows) := by
  refine h.bind ?_ fun _ => h.pure _
  show Action.Leads R (rows.foldlM (Registry.mergeRow measure (r.scans + 1)) r.store)
  -- only the store changes from row to row
  generalize r.store = store
  induction rows generalizing store with
  | nil => exact h.pure store
  | cons row rows ih =>
      rw [List.foldlM_cons]
      refine h.bind ?_ ih
      rw [Registry.mergeRow]
      by_cases hrow : row.inUse = true
      · rw [if_pos hrow]
        exact h.bind hmeasure fun _ => h.pure _
      · rw [if_neg hrow]
        exact h.pure _

theorem restart (h : host.Respects R) (settle : Span) :
    Action.Leads R (Repinning.restart host settle) := by
  refine h.bind h.restarted fun reply => ?_
  rcases reply with failure | _
  · exact h.pure _
  · exact h.bind (h.slept settle) fun _ => h.pure _

theorem switchTo (h : host.Respects R) (link : AccessPoint) (choice : Choice) :
    Action.Leads R (m.switchTo host link choice) := by
  refine h.bind (h.pinned _) fun reply => ?_
  rcases reply with failure | _
  · exact h.pure _
  · refine h.bind (h.restart _) fun reply => ?_
    rcases reply with failure | _
    · exact h.bind (h.note _) fun _ => h.pure _
    · exact h.pure _

theorem decideOn (h : host.Respects R) (link : AccessPoint) :
    Action.Leads R (m.decideOn host link) := by
  refine h.bind (h.bind (h.noteAny _) fun _ => h.note _) fun _ => ?_
  refine h.bind (h.noteEach _ _) fun _ => ?_
  split
  · exact h.pure _
  · refine h.bind (h.note _) fun _ => ?_
    split
    · exact h.pure _
    · exact h.switchTo link _

theorem afterSweep (h : host.Respects R) : Action.Leads R (m.afterSweep host) := by
  rw [Monitor.afterSweep]
  cases m.registry.active with
  | error failure => exact h.pure _
  | ok link => exact h.decideOn link

theorem tick (h : host.Respects R) : Action.Leads R (m.tick host) := by
  refine h.bind h.scanned fun reply => ?_
  rcases reply with failure | rows
  · exact h.pure _
  · refine h.bind (h.note _) fun _ => h.bind ?_ fun m => ?_
    · refine h.bind (h.noteAny _) fun _ => h.bind (h.refresh (h.measure _) _ _) fun _ => ?_
      exact h.bind (h.noteAny _) fun _ => h.pure _
    · exact h.afterSweep

/-! ### Through a history -/

theorem start (h : host.Respects R) : Action.Leads R (m.start host) := by
  refine h.bind h.asked fun reply => ?_
  rcases reply with failure | _ | _
  · exact h.pure _
  · exact h.bind (h.note _) fun _ => h.pure _
  · show Action.Leads R (if m.dryRun = true then _ else _)
    by_cases hdry : m.dryRun = true
    · rw [if_pos hdry]
      exact h.bind (h.note _) fun _ => h.pure _
    · rw [if_neg hdry]
      refine h.bind (h.note _) fun _ => h.bind ?_ fun reply => ?_
      · refine h.bind (h.pinned none) fun reply => ?_
        rcases reply with failure | _
        · exact h.pure _
        · exact h.restart _
      · rcases reply with failure | _ <;> exact h.pure _

theorem answer (h : host.Respects R) (outcome : Except Failure Decision) :
    Action.Leads R (Monitor.answer outcome) := by
  rcases outcome with failure | decision
  · cases failure with
    | badSettings fault => exact h.pure _
    | notConnected ssid | notStarted program cause | toolFailed program status stderr =>
        exact h.bind (h.note _) fun _ => h.pure _
  · exact h.pure _

theorem step (h : host.Respects R) : Action.Leads R (m.step host) :=
  h.bind h.tick fun _ => h.bind (h.answer _) fun _ => h.pure _

theorem make (h : host.Respects R) (move : Monitor.Move) : Action.Leads R (m.make host move) := by
  cases move with
  | start => exact h.bind h.start fun _ => h.pure _
  | tick => exact h.bind h.tick fun _ => h.pure _
  | answer outcome => exact h.bind (h.answer outcome) fun _ => h.pure _
  | pause cadence => exact h.bind (h.note _) fun _ => h.bind (h.slept _) fun _ => h.pure _
  | stop => exact h.bind (h.note _) fun _ => h.pure _

theorem makeAll (h : host.Respects R) (moves : List Monitor.Move) :
    Action.Leads R (m.makeAll host moves) := by
  induction moves generalizing m with
  | nil => exact h.pure m
  | cons move moves ih => exact h.bind (h.make move) fun _ => ih

/-- **What no question breaks, no history breaks.** -/
theorem performAll (h : host.Respects R) (ops : List Operation) (s : σ) :
    R s (m.performAll host ops s).events (m.performAll host ops s).state := by
  rw [Monitor.performAll_eq_makeAll]
  exact h.makeAll _ s

end Host.Respects

/-! ## The log of commands -/

/-- Whether a command changes the profile or touches a service. -/
def Command.isChange (c : Command) : Bool :=
  c.program == "systemctl" || (c.program == "nmcli" && c.args.take 2 == ["connection", "modify"])

/-- A toolbox with a log of the commands it ran. -/
def Toolbox.logged {τ : Type} (tools : Toolbox τ) : Toolbox (List Command × τ) where
  execute c s := ((tools.execute c s.2).1, (s.1 ++ [c], (tools.execute c s.2).2))
  sleep pause s := (s.1, tools.sleep pause s.2)
  isRunning s := tools.isRunning s.2

namespace NetworkManager

variable {τ : Type} (tools : Toolbox τ) (profile : String)

/-- The commands behind events, but for those that could not be tried. -/
def commandsOf (events : List Event) : List Command :=
  (events.filterMap (commandOf profile)).filter (·.isSound)

theorem commandsOf_append (events later : List Event) :
    commandsOf profile (events ++ later)
      = commandsOf profile events ++ commandsOf profile later := by
  rw [commandsOf, List.filterMap_append, List.filter_append]
  rfl

/-- Running a command logs it if it can be tried. -/
theorem log_execute (c : Command) (s : List Command × τ) :
    (execute tools.logged c s).2.1 = s.1 ++ [c].filter (·.isSound) := by
  rw [execute]
  by_cases hsound : c.isSound = true
  · rw [if_pos hsound, List.filter_cons_of_pos hsound]
    rfl
  · rw [if_neg hsound, List.filter_cons_of_neg hsound]
    exact (List.append_nil _).symm

theorem log_executeForText (c : Command) (s : List Command × τ) :
    (executeForText tools.logged c s).2.1 = s.1 ++ [c].filter (·.isSound) :=
  log_execute tools c s

/-- Every question logs its own command. -/
theorem respects_log :
    (host tools.logged profile).Respects fun s events s' =>
      s'.1 = s.1 ++ commandsOf profile events where
  refl s := (List.append_nil _).symm
  trans := by
    intro s s' s'' events later h h'
    rw [h', h, commandsOf_append, List.append_assoc]
  asked s := log_executeForText tools _ s
  scanned s := log_executeForText tools listAccessPoints s
  lookedUp s := log_executeForText tools showDefaultRoutes s
  probed gateway count deadline s := log_execute tools _ s
  pinned bssid s := log_executeForText tools _ s
  restarted s := log_executeForText tools restartService s
  slept pause s := (List.append_nil _).symm
  noted n s := (List.append_nil _).symm

/-- **The commands of a history are those behind its events.** -/
theorem log_performAll (m : Monitor) (ops : List Operation) (s : List Command × τ) :
    let run := m.performAll (host tools.logged profile) ops s
    run.state.1 = s.1 ++ commandsOf profile run.events :=
  (respects_log tools profile).performAll ops s

/-- Behind a command that changes anything stands a pin or a restart. -/
theorem exists_of_isChange {events : List Event} {c : Command}
    (hc : c ∈ commandsOf profile events) (hchange : c.isChange = true) :
    ∃ event ∈ events,
      (∃ bssid reply, event = .pinned bssid reply) ∨ ∃ reply, event = .restarted reply := by
  obtain ⟨event, hmem, hcommand⟩ := List.mem_filterMap.1 (List.mem_filter.1 hc).1
  refine ⟨event, hmem, ?_⟩
  cases event with
  | slept pause | noted n => exact nomatch hcommand
  | asked | scanned | lookedUp | probed =>
      obtain rfl := Option.some.inj hcommand
      exact nomatch hchange
  | pinned bssid reply => exact .inl ⟨bssid, reply, rfl⟩
  | restarted reply => exact .inr ⟨reply, rfl⟩

end NetworkManager

end Roaming
