import Roaming.Monitor

/-!
# Operations on a monitor

A monitor may be started, ticked, stepped and run, in any order and any number of times. An
operation is one of these as a value, so a history of a monitor is a list of operations.
-/

namespace Roaming

/-- Something that may be asked of a monitor. -/
inductive Operation where
  /-- To check the profile and clear its pin. -/
  | start
  /-- To make one iteration. -/
  | tick
  /-- To make one iteration and answer its failure. -/
  | step
  /-- To start and iterate, at most `limit` times. -/
  | run (limit : Nat)
deriving DecidableEq

namespace Operation

/-- What an operation answers. -/
abbrev Answer : Operation → Type
  | .start => Except Failure Phase
  | .tick => Except Failure Decision
  | .step => Except Failure Cadence
  | .run _ => Option (Except Failure Unit)

end Operation

namespace Monitor

variable {σ : Type} (host : Host σ)

/-- Does what an operation asks for. -/
def perform (m : Monitor) : (op : Operation) → Action σ (op.Answer × Monitor)
  | .start => m.start host
  | .tick => m.tick host
  | .step => m.step host
  | .run limit => m.run host limit

/-- Does what the operations of a history ask for, one after another. -/
def performAll (m : Monitor) : List Operation → Action σ Monitor
  | [] => pure m
  | op :: ops => do
    let performed ← m.perform host op
    performAll performed.2 ops

end Monitor

end Roaming
