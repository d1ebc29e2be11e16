import Roaming.Decimal
import Roaming.Span

/-!
# Latency

The latency of a link is the mean of a probe's round trips plus their mean deviation, so a jittery
link counts as slower than a steady one with the same mean. The figures stand in the last line of a
probe's summary, as four numbers between slashes in its fourth word; any other shape of that word is
no summary.

An access point keeps one latency: the first sample as it is, and after that the mean of the kept
value and the new sample.
-/

namespace Roaming

/-- Round trip times of a probe, in milliseconds. -/
structure RoundTrip where
  /-- The shortest round trip. -/
  min : Float
  /-- The mean. -/
  avg : Float
  /-- The longest round trip. -/
  max : Float
  /-- The mean deviation. -/
  mdev : Float

namespace RoundTrip

open Text

/-- The latency of a probe: mean plus mean deviation. -/
def combined (r : RoundTrip) : Float :=
  r.avg + r.mdev

/-- The round trip times in one field of a summary: exactly four numbers between slashes. -/
def ofField? (field : List Char) : Option RoundTrip := do
  match ← (field.splitOn '/').mapM Decimal.readFloat? with
  | [min, avg, max, mdev] => some { min, avg, max, mdev }
  | _ => none

/-- The round trip times in the last line of a summary: those of its fourth word. -/
def ofLine? (line : List Char) : Option RoundTrip :=
  (words line)[3]?.bind ofField?

/-- The round trip times in the output of a probe: those of the last line that is not blank. -/
def ofSummary? (output : String) : Option RoundTrip :=
  ((lines output.toList).reverse.find? fun line => !line.all isBlank).bind ofLine?

end RoundTrip

namespace Latency

/-- The latency kept after a new sample. -/
def smooth (kept : Option Float) (sample : Float) : Float :=
  match kept with
  | some value => (value + sample) / 2.0
  | none => sample

/-- The time a probe of `pings` echoes may take: one second per echo and one more. -/
def deadline (pings : UInt32) : Span :=
  .ofSeconds (pings.toUInt64 + 1)

/-- The latency that stands for a probe without a usable summary: twice the time of the echoes, in
milliseconds, so that it is slower than any probe that ended in time. -/
def sentinel (pings : UInt32) : Float :=
  2.0 * pings.toFloat * 1000.0

end Latency

end Roaming
