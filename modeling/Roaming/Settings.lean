import Roaming.Span

/-!
# Settings

What the monitor may be told: the profile it manages, how much better a candidate has to be, how a
probe is made, how long to pause, and how much the registry may hold. A `Settings` value is already
checked; `Roaming.Settings.Draft` holds the unchecked form that a document gives.
-/

namespace Roaming

/-- The pauses of the monitor, in seconds. -/
structure Timing where
  /-- The pause after reconfiguring, before the next scan is trusted. -/
  settle : UInt64
  /-- The pause after a switch. -/
  shortInterval : UInt64
  /-- The pause when nothing better was found. -/
  longInterval : UInt64
deriving DecidableEq

/-- How long to pause after an iteration. -/
inductive Cadence where
  /-- The interval after a switch. -/
  | short
  /-- The interval when nothing better was found. -/
  | long
deriving DecidableEq

/-- The bounds of the registry. -/
structure Limits where
  /-- The most access points kept. -/
  maxEntries : UInt64
  /-- An access point absent from this many scans in a row is dropped. -/
  staleAfterScans : UInt64
deriving DecidableEq

/-- Checked settings. -/
structure Settings where
  version : UInt32
  /-- The connection profile that is managed. -/
  profile : String
  /-- The margin by which a candidate has to beat the quality of the link in use. -/
  qualityPenalty : Int32
  /-- The number of echoes in a probe, one per second. -/
  pingCount : UInt32
  timing : Timing
  limits : Limits
deriving DecidableEq

namespace Settings

/-- The only version of the settings format. -/
def currentVersion : UInt32 := 1

/-- The profile that is managed unless another one is named. -/
def defaultProfile : String := "10-kiss-enable-master"

/-- The settings in force where nothing is said. -/
def default : Settings where
  version := currentVersion
  profile := defaultProfile
  qualityPenalty := 10
  pingCount := 4
  timing := { settle := 10, shortInterval := 5, longInterval := 300 }
  limits := { maxEntries := 256, staleAfterScans := 12 }

end Settings

end Roaming
