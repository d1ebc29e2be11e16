import Roaming.Latency
import Roaming.Notice
import Roaming.Observation

/-!
# Hosts, actions and their events

The monitor works on a *host*: something that can be asked about the profile, scanned, probed,
pinned, restarted and waited on, and that says whether the monitor is still wanted. A host is any
family of total functions on a state `σ`, so every behaviour of the tools outside, failing ones
included, is some host.

An *action* runs on the state and leaves a value, the *events* it caused in their order, and the
state after it. Every question to the host is an event together with its reply, and so is every
notice; the events of two actions in a row are those of the first followed by those of the second.
-/

namespace Roaming

/-- What the monitor may ask of the machine it runs on. -/
structure Host (σ : Type) where
  /-- Whether the profile exists and is wireless. -/
  isAvailable : σ → Except Failure Bool × σ
  /-- A fresh scan. -/
  scan : σ → Except Failure (List Observation) × σ
  /-- The gateway of the default route, if there is one. -/
  defaultGateway : σ → Except Failure (Option String) × σ
  /-- A probe of a gateway with a number of echoes and a deadline. -/
  probe : String → UInt32 → Span → σ → Except Failure (Option RoundTrip) × σ
  /-- Pinning the profile to a BSSID, or clearing its pin. -/
  pin : Option String → σ → Except Failure Unit × σ
  /-- Restarting the network so that the profile takes effect. -/
  restart : σ → Except Failure Unit × σ
  /-- Waiting. -/
  sleep : Span → σ → σ
  /-- Whether the monitor is still wanted. -/
  isRunning : σ → Bool

/-- One thing that happened while an action ran. -/
inductive Event where
  /-- The profile was asked for. -/
  | asked (reply : Except Failure Bool)
  /-- A scan was taken. -/
  | scanned (reply : Except Failure (List Observation))
  /-- The gateway was looked up. -/
  | lookedUp (reply : Except Failure (Option String))
  /-- A gateway was probed. -/
  | probed (gateway : String) (count : UInt32) (deadline : Span)
      (reply : Except Failure (Option RoundTrip))
  /-- The profile was pinned, or its pin was cleared. -/
  | pinned (bssid : Option String) (reply : Except Failure Unit)
  /-- The network was restarted. -/
  | restarted (reply : Except Failure Unit)
  /-- A pause was made. -/
  | slept (pause : Span)
  /-- A notice was written to the log. -/
  | noted (notice : Notice)

/-- What an action leaves behind. -/
structure Trace (σ α : Type) where
  /-- The value of the action. -/
  value : α
  /-- The events the action caused, in order. -/
  events : List Event
  /-- The state after the action. -/
  state : σ

/-- An action on the state of a host. -/
def Action (σ α : Type) : Type :=
  σ → Trace σ α

namespace Action

variable {σ α β : Type}

/-- An action that causes nothing. -/
def done (a : α) : Action σ α :=
  fun s => ⟨a, [], s⟩

/-- One action after another; the second may depend on the value of the first. -/
def followedBy (x : Action σ α) (f : α → Action σ β) : Action σ β := fun s =>
  let first := x s
  let second := f first.value first.state
  ⟨second.value, first.events ++ second.events, second.state⟩

instance : Monad (Action σ) where
  pure := done
  bind := followedBy

theorem pure_apply (a : α) (s : σ) : (pure a : Action σ α) s = ⟨a, [], s⟩ := rfl

theorem bind_apply (x : Action σ α) (f : α → Action σ β) (s : σ) :
    (x >>= f) s =
      ⟨(f (x s).value (x s).state).value, (x s).events ++ (f (x s).value (x s).state).events,
        (f (x s).value (x s).state).state⟩ := rfl

instance : LawfulMonad (Action σ) := LawfulMonad.mk' (Action σ)
  (fun x => by
    funext s
    show (⟨(x s).value, (x s).events ++ [], (x s).state⟩ : Trace σ _) = x s
    rw [List.append_nil])
  (fun _ _ => rfl)
  (fun x f g => by
    funext s
    simp only [bind_apply, List.append_assoc])

/-- An action that is one question to the host. -/
def ask (question : σ → α × σ) (event : α → Event) : Action σ α := fun s =>
  let (reply, s) := question s
  ⟨reply, [event reply], s⟩

/-- Writes a notice to the log. -/
def note (n : Notice) : Action σ Unit :=
  fun s => ⟨(), [.noted n], s⟩

/-- Writes a notice if there is one. -/
def noteAny : Option Notice → Action σ Unit
  | none => pure ()
  | some n => note n

/-- Writes a notice for each member of a list. -/
def noteEach (f : α → Notice) : List α → Action σ Unit
  | [] => pure ()
  | a :: as => do
    note (f a)
    noteEach f as

end Action

namespace Host

variable {σ : Type} (host : Host σ)

/-- Asks whether the profile exists and is wireless. -/
def askAvailable : Action σ (Except Failure Bool) :=
  .ask host.isAvailable .asked

/-- Takes a scan. -/
def takeScan : Action σ (Except Failure (List Observation)) :=
  .ask host.scan .scanned

/-- Looks the gateway up. -/
def lookUpGateway : Action σ (Except Failure (Option String)) :=
  .ask host.defaultGateway .lookedUp

/-- Probes a gateway. -/
def sendProbe (gateway : String) (count : UInt32) (deadline : Span) :
    Action σ (Except Failure (Option RoundTrip)) :=
  .ask (host.probe gateway count deadline) (.probed gateway count deadline)

/-- Pins the profile, or clears its pin. -/
def setPin (bssid : Option String) : Action σ (Except Failure Unit) :=
  .ask (host.pin bssid) (.pinned bssid)

/-- Restarts the network. -/
def doRestart : Action σ (Except Failure Unit) :=
  .ask host.restart .restarted

/-- Makes a pause. -/
def pause (length : Span) : Action σ Unit :=
  fun s => ⟨(), [.slept length], host.sleep length s⟩

/-- Reads whether the monitor is still wanted. -/
def stillWanted : Action σ Bool :=
  fun s => ⟨host.isRunning s, [], s⟩

end Host

end Roaming
