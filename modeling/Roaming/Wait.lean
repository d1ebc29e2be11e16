import Roaming.Span

/-!
# Waiting in slices

A wait that can be called off sleeps in short slices and looks at the stop flag before each of them.
It ends when the flag is cleared or when its deadline has come. The deadline is a reading of the
clock, and a clock counts whole seconds in 63 bits: a wait whose deadline is no reading of the clock
cannot be made.
-/

namespace Roaming.Wait

/-- What a wait needs of the machine: a clock, the stop flag, and sleep. -/
structure Clock (τ : Type) where
  /-- The time in nanoseconds. -/
  now : τ → Nat × τ
  /-- Whether the wait is still wanted. -/
  isWanted : τ → Bool × τ
  /-- Sleep for a length of time. -/
  sleep : Span → τ → τ

/-- What a wait leaves behind. -/
structure Waited (τ : Type) where
  /-- The slices slept, in order. -/
  slices : List Span
  /-- Whether the wait ended by itself; if not, it was cut off after the allowed number of slices.
  -/
  ended : Bool
  /-- The state of the machine after the wait. -/
  state : τ

/-- The longest slice. -/
def slice : Span :=
  .ofMillis 250

/-- A time that the clock can show. -/
def isReading (nanos : Nat) : Bool :=
  nanos / 1000000000 < Nat.pow 2 63

/-- The deadline of a wait, if the clock can show it. -/
def deadline? (now : Nat) (length : Span) : Option Nat :=
  let deadline := now + length.nanos
  if isReading deadline then some deadline else none

variable {τ : Type} (clock : Clock τ)

/-- Sleeps slice by slice until the deadline or until the wait is called off, looking at the flag at
most `looks` times. -/
def untilDeadline (deadline : Nat) : Nat → τ → Waited τ
  | 0, s => ⟨[], false, s⟩
  | looks + 1, s =>
    let (wanted, s) := clock.isWanted s
    if !wanted then ⟨[], true, s⟩
    else
      let (now, s) := clock.now s
      if deadline ≤ now then ⟨[], true, s⟩
      else
        let next : Span := ⟨min slice.nanos (deadline - now)⟩
        let rest := untilDeadline deadline looks (clock.sleep next s)
        { rest with slices := next :: rest.slices }

/-- The number of slices in a length of time, the last one possibly shorter. -/
def slicesIn (length : Span) : Nat :=
  (length.nanos + slice.nanos - 1) / slice.nanos

/-- Waits for a length of time, looking at the flag at most `looks` times; `none` if the deadline is
beyond the clock. -/
def waitWithin (looks : Nat) (length : Span) (s : τ) : Option (Waited τ) :=
  let (now, s) := clock.now s
  (deadline? now length).map fun deadline => untilDeadline clock deadline looks s

/-- Waits for a length of time on a clock that sleep moves on: one look for each slice and a last
one. -/
def wait (length : Span) (s : τ) : Option (Waited τ) :=
  waitWithin clock (slicesIn length + 1) length s

end Roaming.Wait
