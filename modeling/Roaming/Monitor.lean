import Roaming.Probe
import Roaming.Registry
import Roaming.Repinning
import Roaming.Settings
import Roaming.Verdict

/-!
# The monitor

The monitor scans, merges, judges and, where a candidate beats the active link, pins the profile to
it. After a switch it looks again soon; otherwise it backs off to the long interval, because a scan
and a probe cost something on the machines it runs on.

* `start` checks the profile and clears a pin left over from an earlier run.
* `tick` is one iteration, which either decides or fails.
* `step` answers the failures of an iteration: whatever may pass is noted and tried again later.
* `run` starts and then steps and pauses in turn until the monitor is no longer wanted.

In a dry run everything is done except pinning and restarting.
-/

namespace Roaming

/-- Where the monitor stands. -/
inductive Phase where
  /-- Not started, or not started with success. -/
  | starting
  /-- Iterating. -/
  | monitoring
  /-- There is no wireless profile to manage; nothing more happens. -/
  | unavailable
deriving DecidableEq

/-- What an iteration decided. -/
inductive Decision where
  /-- No candidate beats the active link. -/
  | stayed (active : String)
  /-- The profile was pinned to another access point. -/
  | switched (source target : String) (score : Int32)
  /-- Another access point would have been pinned, were this not a dry run. -/
  | wouldSwitch (source target : String) (score : Int32)
deriving DecidableEq

namespace Decision

/-- The pause that follows a decision. -/
def cadence : Decision → Cadence
  | .switched _ _ _ => .short
  | .stayed _ => .long
  | .wouldSwitch _ _ _ => .long

end Decision

/-- The monitor between two operations. -/
structure Monitor where
  /-- The settings in force. -/
  settings : Settings
  /-- Whether pinning and restarting are left out. -/
  dryRun : Bool
  /-- The access points known. -/
  registry : Registry
  /-- Where the monitor stands. -/
  phase : Phase
  /-- The BSSID the profile was last pinned to. -/
  lastPinned : Option String
  /-- Whether the next report on the active link is news. -/
  reportNews : Bool

namespace Monitor

/-- A monitor that has not started. -/
def new (settings : Settings) (dryRun : Bool) : Monitor where
  settings
  dryRun
  registry := .empty settings.limits
  phase := .starting
  lastPinned := none
  reportNews := true

/-- The settle pause. -/
def settle (m : Monitor) : Span :=
  .ofSeconds m.settings.timing.settle

/-- The length of the pause after an iteration. -/
def interval (m : Monitor) : Cadence → Span
  | .short => .ofSeconds m.settings.timing.shortInterval
  | .long => .ofSeconds m.settings.timing.longInterval

variable {σ : Type} (host : Host σ)

/-- Checks the profile and clears its pin; the phase changes only on success. -/
def start (m : Monitor) : Action σ (Except Failure Phase × Monitor) := do
  match ← host.askAvailable with
  | .error failure => return (.error failure, m)
  | .ok false =>
    Action.note .noWirelessProfile
    return (.ok .unavailable, { m with phase := .unavailable })
  | .ok true =>
    if m.dryRun then
      Action.note .pinLeftAlone
      return (.ok .monitoring, { m with phase := .monitoring })
    else
      Action.note .clearingPin
      match ← Repinning.reset host m.settle with
      | .error failure => return (.error failure, m)
      | .ok () => return (.ok .monitoring, { m with phase := .monitoring })

/-- The notice that a scan makes a network known, if it does. -/
def learnedNotice? (m : Monitor) (rows : List Observation) : Option Notice :=
  (m.registry.learns? rows).map .learnedSsid

/-- The notice that access points were dropped, if some were. -/
def droppedNotice? (refresh : Refresh) : Option Notice :=
  if refresh.stale + refresh.trimmed = 0 then none
  else some (.evicted refresh.stale refresh.trimmed refresh.registry.size)

/-- The notice that the active link does not honour the pin, if it does not. -/
def pinNotice? (m : Monitor) (active : AccessPoint) : Option Notice :=
  match m.lastPinned with
  | some pinned => if pinned = active.bssid then none else some (.pinIgnored pinned active.bssid)
  | none => none

/-- The notice of the verdict on a candidate. -/
def judgement (m : Monitor) (active candidate : AccessPoint) : Notice :=
  .judged candidate (active.judge m.settings.qualityPenalty candidate)

/-- Merges a scan, noting the network it makes known and the access points it drops. -/
def absorb (m : Monitor) (rows : List Observation) : Action σ Monitor := do
  Action.noteAny (m.learnedNotice? rows)
  let refresh ← m.registry.refresh (Latency.measure host m.settings.pingCount) rows
  Action.noteAny (droppedNotice? refresh)
  return { m with registry := refresh.registry }

/-- Reports the active link, and a pin that it does not honour. -/
def report (m : Monitor) (active : AccessPoint) : Action σ Unit := do
  Action.noteAny (m.pinNotice? active)
  Action.note (.currentLink m.reportNews active)

/-- Pins the profile to a choice and restarts the network. The pin counts as made even if the
restart fails. -/
def switchTo (m : Monitor) (active : AccessPoint) (choice : Choice) :
    Action σ (Except Failure Decision × Monitor) := do
  let target := choice.entry.bssid
  match ← Repinning.pin host target with
  | .error failure => return (.error failure, m)
  | .ok () =>
    let m := { m with lastPinned := some target, reportNews := true }
    match ← Repinning.restart host m.settle with
    | .error failure =>
      Action.note (.restartFailed target failure)
      return (.error failure, m)
    | .ok () => return (.ok (.switched active.bssid target choice.score), m)

/-- Judges the candidates against the active link and acts on the best one. -/
def decideOn (m : Monitor) (active : AccessPoint) :
    Action σ (Except Failure Decision × Monitor) := do
  m.report active
  let candidates := m.registry.candidates
  Action.noteEach (m.judgement active) candidates
  match Choice.best m.settings.qualityPenalty active candidates with
  | none => return (.ok (.stayed active.bssid), { m with reportNews := false })
  | some choice =>
    Action.note (.switching active.bssid choice m.dryRun)
    if m.dryRun then
      return (.ok (.wouldSwitch active.bssid choice.entry.bssid choice.score),
        { m with reportNews := false })
    else
      m.switchTo host active choice

/-- One iteration: scan, merge, judge and act. -/
def tick (m : Monitor) : Action σ (Except Failure Decision × Monitor) := do
  match ← host.takeScan with
  | .error failure => return (.error failure, m)
  | .ok rows =>
    Action.note (.scanned rows.length)
    let m ← m.absorb host rows
    match m.registry.active with
    | .error failure => return (.error failure, m)
    | .ok active => m.decideOn host active

/-- The answer to the outcome of an iteration: a decision gives its cadence, a transient failure is
noted and answered with the long interval, and any other failure stands. -/
def answer : Except Failure Decision → Action σ (Except Failure Cadence)
  | .ok decision => return .ok decision.cadence
  | .error failure => do
    match failure with
    | .notConnected _ =>
      Action.note (.notAssociated failure)
      return .ok .long
    | .badSettings _ => return .error failure
    | _ =>
      Action.note (.iterationFailed failure)
      return .ok .long

/-- One iteration and the cadence that follows it. -/
def step (m : Monitor) : Action σ (Except Failure Cadence × Monitor) := do
  let ticked ← m.tick host
  let cadence ← answer ticked.1
  return (cadence, ticked.2)

/-- The end of a run that is no longer wanted. -/
def finish (m : Monitor) : Action σ (Option (Except Failure Unit) × Monitor) := do
  Action.note .stopped
  return (some (.ok ()), m)

/-- Steps and pauses in turn while the monitor is wanted, for at most `limit` iterations; `none`
says that it was still wanted after the last of them. -/
def loop : Nat → Monitor → Action σ (Option (Except Failure Unit) × Monitor)
  | 0, m => return (none, m)
  | limit + 1, m => do
    if ← host.stillWanted then
      let stepped ← m.step host
      match stepped.1 with
      | .error failure => return (some (.error failure), stepped.2)
      | .ok cadence =>
        if ← host.stillWanted then
          Action.note (.sleeping cadence (m.interval cadence))
          host.pause (m.interval cadence)
          loop limit stepped.2
        else stepped.2.finish
    else m.finish

/-- Starts, then iterates until the monitor is no longer wanted, at most `limit` times. -/
def run (limit : Nat) (m : Monitor) : Action σ (Option (Except Failure Unit) × Monitor) := do
  let started ← m.start host
  match started.1 with
  | .error failure => return (some (.error failure), started.2)
  | .ok .unavailable => return (some (.ok ()), started.2)
  | .ok _ => started.2.loop host limit

/-- Starts and makes one iteration if there is a profile to manage. -/
def runOnce (m : Monitor) : Action σ (Except Failure Unit × Monitor) := do
  let started ← m.start host
  match started.1 with
  | .error failure => return (.error failure, started.2)
  | .ok .monitoring =>
    let stepped ← started.2.step host
    return (stepped.1.map fun _ => (), stepped.2)
  | .ok _ => return (.ok (), started.2)

end Monitor

end Roaming
