import Roaming.Proofs.Commands

/-!
# Calls and the answers of a host

What an action asks of its host is in its events: notices apart, they are its *calls*
(`Event.callsOf`). An event names the call and carries its reply, so the events settle the state to
which they lead (`Host.stateAfter`), and they are true to the host if every reply is the host's own
in the state of that moment (`Host.Answers`). The events of whatever a monitor does are true to its
host and lead to the state that it leaves (`Host.respects_answers`).
-/

namespace Roaming

namespace Event

/-- Whether an event is a call to the host. -/
def isCall : Event → Bool
  | .noted _ => false
  | _ => true

/-- The calls among events, in their order. -/
def callsOf (events : List Event) : List Event :=
  events.filter (·.isCall)

theorem callsOf_append (events later : List Event) :
    callsOf (events ++ later) = callsOf events ++ callsOf later :=
  List.filter_append ..

theorem callsOf_map_noted {α : Type} (f : α → Notice) (as : List α) :
    callsOf (as.map fun a => .noted (f a)) = [] := by
  rw [callsOf, List.filter_eq_nil_iff]
  intro event hevent
  obtain ⟨a, -, rfl⟩ := List.mem_map.1 hevent
  exact Bool.false_ne_true

end Event

open Event

theorem Action.callsOf_noticed (n : Option Notice) : callsOf (Action.noticed n) = [] :=
  callsOf_map_noted id n.toList

namespace Host

variable {σ : Type} (host : Host σ)

/-- The state to which an event leads. -/
def next (s : σ) : Event → σ
  | .asked _ => (host.isAvailable s).2
  | .scanned _ => (host.scan s).2
  | .lookedUp _ => (host.defaultGateway s).2
  | .probed gateway count deadline _ => (host.probe gateway count deadline s).2
  | .pinned bssid _ => (host.pin bssid s).2
  | .restarted _ => (host.restart s).2
  | .slept pause => host.sleep pause s
  | .noted _ => s

/-- The state to which events lead. -/
def stateAfter (s : σ) (events : List Event) : σ :=
  events.foldl host.next s

/-- The reply in an event is the host's own. -/
def Replies (s : σ) : Event → Prop
  | .asked reply => reply = (host.isAvailable s).1
  | .scanned reply => reply = (host.scan s).1
  | .lookedUp reply => reply = (host.defaultGateway s).1
  | .probed gateway count deadline reply => reply = (host.probe gateway count deadline s).1
  | .pinned bssid reply => reply = (host.pin bssid s).1
  | .restarted reply => reply = (host.restart s).1
  | .slept _ => True
  | .noted _ => True

/-- Every reply in the events is the host's own at that moment. -/
def Answers (s : σ) : List Event → Prop
  | [] => True
  | event :: later => host.Replies s event ∧ Answers (host.next s event) later

variable {host} {s : σ} {events later : List Event}

theorem stateAfter_append :
    host.stateAfter s (events ++ later) = host.stateAfter (host.stateAfter s events) later :=
  List.foldl_append

theorem Answers.append (h : host.Answers s events)
    (hlater : host.Answers (host.stateAfter s events) later) :
    host.Answers s (events ++ later) := by
  induction events generalizing s with
  | nil => exact hlater
  | cons event events ih => exact ⟨h.1, ih h.2 hlater⟩

/-- Notices leave the state as it is. -/
theorem stateAfter_callsOf : host.stateAfter s (callsOf events) = host.stateAfter s events := by
  induction events generalizing s with
  | nil => rfl
  | cons event events ih =>
      cases event with
      | noted n => exact ih
      | asked | scanned | lookedUp | probed | pinned | restarted | slept => exact ih

/-- Of true events the calls are true. -/
theorem Answers.callsOf (h : host.Answers s events) : host.Answers s (callsOf events) := by
  induction events generalizing s with
  | nil => exact h
  | cons event events ih =>
      cases event with
      | noted n => exact ih h.2
      | asked | scanned | lookedUp | probed | pinned | restarted | slept => exact ⟨h.1, ih h.2⟩

/-- Every question gives an event that is true to the host and leads to the state it leaves. -/
theorem respects_answers (host : Host σ) :
    host.Respects fun s events s' => host.Answers s events ∧ s' = host.stateAfter s events where
  refl s := ⟨trivial, rfl⟩
  trans := by
    rintro s s' s'' events later ⟨hfirst, rfl⟩ ⟨hsecond, rfl⟩
    exact ⟨hfirst.append hsecond, stateAfter_append.symm⟩
  asked s := ⟨⟨rfl, trivial⟩, rfl⟩
  scanned s := ⟨⟨rfl, trivial⟩, rfl⟩
  lookedUp s := ⟨⟨rfl, trivial⟩, rfl⟩
  probed gateway count deadline s := ⟨⟨rfl, trivial⟩, rfl⟩
  pinned bssid s := ⟨⟨rfl, trivial⟩, rfl⟩
  restarted s := ⟨⟨rfl, trivial⟩, rfl⟩
  slept pause s := ⟨⟨trivial, trivial⟩, rfl⟩
  noted n s := ⟨⟨trivial, trivial⟩, rfl⟩

end Host

end Roaming
