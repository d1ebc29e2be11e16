/-!
# Lengths of time

Waits and deadlines are lengths of time, kept in nanoseconds so that slices of a wait and whole
seconds are numbers of one kind.
-/

namespace Roaming

/-- A length of time. -/
structure Span where
  /-- The length in nanoseconds. -/
  nanos : Nat
deriving DecidableEq

namespace Span

/-- A length of whole seconds. -/
def ofSeconds (seconds : UInt64) : Span :=
  ⟨seconds.toNat * 1000000000⟩

/-- A length of whole milliseconds. -/
def ofMillis (millis : UInt64) : Span :=
  ⟨millis.toNat * 1000000⟩

/-- The whole seconds in a length of time. -/
def wholeSeconds (d : Span) : Nat :=
  d.nanos / 1000000000

theorem wholeSeconds_ofSeconds (seconds : UInt64) :
    (ofSeconds seconds).wholeSeconds = seconds.toNat := by
  simp [wholeSeconds, ofSeconds]

end Span

end Roaming
