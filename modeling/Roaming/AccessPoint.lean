import Roaming.Latency
import Roaming.Observation

/-!
# Access points

What is kept of an access point between scans. Its identity and its network are those of the
observation that made it known; quality, rate and the in-use mark are those of the last one; the
latency is kept only for access points that have been in use.
-/

namespace Roaming

/-- One access point as it is known. -/
structure AccessPoint where
  /-- The identity of the access point. -/
  bssid : String
  /-- The name of its network. -/
  ssid : String
  /-- Signal quality in the last observation. -/
  quality : Int32
  /-- Bit rate in the last observation. -/
  rate : UInt32
  /-- Whether it was the link in use in the last observation. -/
  inUse : Bool
  /-- The smoothed latency in milliseconds, if it was ever measured. -/
  latency : Option Float
  /-- The number of the scan of the last observation, a 64-bit count as `Registry.scans` is. -/
  lastSeen : Nat
deriving DecidableEq

namespace AccessPoint

/-- The access point of a single observation, outside any scan. -/
def ofObservation (o : Observation) : AccessPoint where
  bssid := o.bssid
  ssid := o.ssid
  quality := o.quality
  rate := o.rate
  inUse := o.inUse
  latency := none
  lastSeen := 0

/-- An access point after it was observed in a scan: identity, network and latency stay. -/
def observedIn (a : AccessPoint) (scan : Nat) (o : Observation) : AccessPoint :=
  { a with quality := o.quality, rate := o.rate, inUse := o.inUse, lastSeen := scan }

/-- An access point after its latency was measured. -/
def withSample (a : AccessPoint) (sample : Float) : AccessPoint :=
  { a with latency := some (Latency.smooth a.latency sample) }

end AccessPoint

end Roaming
