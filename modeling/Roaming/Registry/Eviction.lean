import Roaming.Registry.Store
import Roaming.Settings

/-!
# Eviction

After each scan the store is cut down in two steps. First every access point goes that has been
absent for as many scans as the limits allow. Then, while there are still more than the limits
allow, the one seen longest ago goes, the least BSSID first among several; the link in use is never
dropped to make room.
-/

namespace Roaming

namespace AccessPoint

/-- The link in use as of a scan. -/
def isLive (scan : Nat) (a : AccessPoint) : Bool :=
  a.inUse && a.lastSeen == scan

/-- An access point that has been absent for too many scans. -/
def isStale (limits : Limits) (scan : Nat) (a : AccessPoint) : Bool :=
  limits.staleAfterScans.toNat ≤ scan - a.lastSeen

/-- The order in which room is made: seen longer ago, then the lesser BSSID. -/
def goesBefore (a b : AccessPoint) : Bool :=
  a.lastSeen < b.lastSeen || (a.lastSeen == b.lastSeen && a.bssid < b.bssid)

/-- The access point that goes first. -/
def firstToGo? : List AccessPoint → Option AccessPoint
  | [] => none
  | a :: as =>
    match firstToGo? as with
    | none => some a
    | some b => if b.goesBefore a then some b else some a

end AccessPoint

namespace Store

/-- Drops the access points that have been absent for too many scans. -/
def dropStale (limits : Limits) (scan : Nat) (s : Store) : Store :=
  s.filter fun a => !a.isStale limits scan

/-- Makes room by dropping up to `count` access points that are not live. -/
def dropFirst (scan : Nat) : Nat → Store → Store
  | 0, s => s
  | count + 1, s =>
    match AccessPoint.firstToGo? (s.toList.filter fun a => !a.isLive scan) with
    | none => s
    | some a => dropFirst scan count (s.erase a.bssid)

/-- Makes room until at most `most` access points are left, as far as that can be done. -/
def trim (scan most : Nat) (s : Store) : Store :=
  s.dropFirst scan (s.size - most)

/-- What is kept of a store after a scan. -/
def evict (limits : Limits) (scan : Nat) (s : Store) : Store :=
  (s.dropStale limits scan).trim scan limits.maxEntries.toNat

end Store

end Roaming
