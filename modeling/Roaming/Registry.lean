import Roaming.Failure
import Roaming.Registry.Eviction

/-!
# The registry

The registry knows the access points of the last scans and the network to roam within: the one of
the first row in use that any scan ever listed. A scan is merged row by row, so of several rows for
one access point the last one counts; each row in use has its latency measured at that moment.
Merging works in any monad in which a measurement can be made.

Only access points of the roaming network that the last scan listed count as *current*. The current
one in use is the active link, and the current idle ones are the candidates, both by ascending
BSSID.
-/

namespace Roaming

/-- The access points known, the network to roam within, and the number of scans so far. -/
structure Registry where
  /-- The bounds. -/
  limits : Limits
  /-- The access points known. -/
  store : Store
  /-- The network to roam within, once known. -/
  target : Option String
  /-- The number of scans so far. It stands for a 64-bit count, and the `2 ^ 64` scans that would
  exhaust one are out of reach. -/
  scans : Nat

/-- What a refresh leaves: the registry, and how many access points it dropped. -/
structure Refresh where
  /-- The registry after the scan. -/
  registry : Registry
  /-- The number of access points that had been absent for too long. -/
  stale : Nat
  /-- The number of access points dropped to make room. -/
  trimmed : Nat

namespace Registry

/-- The registry before the first scan. -/
def empty (limits : Limits) : Registry where
  limits
  store := .empty
  target := none
  scans := 0

/-- The network that a scan makes known: that of its first row in use, unless one is known already.
-/
def learns? (r : Registry) (rows : List Observation) : Option String :=
  match r.target with
  | some _ => none
  | none => (rows.find? (·.inUse)).map (·.ssid)

section Merge

variable {m : Type → Type} [Monad m] (measure : m Float)

/-- Merges one row of a scan into a store, measuring the latency of a row in use. -/
def mergeRow (scan : Nat) (s : Store) (row : Observation) : m Store :=
  let seen := ((s.get? row.bssid).getD (.ofObservation row)).observedIn scan row
  if row.inUse then do
    let sample ← measure
    return s.insert (seen.withSample sample)
  else
    return s.insert seen

/-- Merges the rows of a scan into a store, in their order. -/
def mergeRows (scan : Nat) (s : Store) (rows : List Observation) : m Store :=
  rows.foldlM (mergeRow measure scan) s

/-- Merges a scan, then drops what is stale or too much. -/
def refresh (r : Registry) (rows : List Observation) : m Refresh := do
  let scan := r.scans + 1
  let merged ← mergeRows measure scan r.store rows
  let fresh := merged.dropStale r.limits scan
  let kept := merged.evict r.limits scan
  return { registry :=
             { r with store := kept, target := r.target <|> r.learns? rows, scans := scan },
           stale := merged.size - fresh.size,
           trimmed := fresh.size - kept.size }

end Merge

/-- Whether an access point counts: it was in the last scan and belongs to the roaming network. -/
def isCurrent (r : Registry) (a : AccessPoint) : Bool :=
  a.lastSeen == r.scans && r.target == some a.ssid

/-- The access points that count, by ascending BSSID. -/
def current (r : Registry) : List AccessPoint :=
  r.store.toList.filter r.isCurrent

/-- The active link: the current access point in use, the one with the least BSSID among several. -/
def active (r : Registry) : Except Failure AccessPoint :=
  match r.current.find? (·.inUse) with
  | some a => .ok a
  | none => .error (.notConnected r.target)

/-- The candidates: the current access points that are idle, by ascending BSSID. -/
def candidates (r : Registry) : List AccessPoint :=
  r.current.filter (!·.inUse)

/-- The access point known under a BSSID. -/
def get? (r : Registry) (bssid : String) : Option AccessPoint :=
  r.store.get? bssid

/-- The number of access points known. -/
def size (r : Registry) : Nat :=
  r.store.size

end Registry

end Roaming
