import Roaming.Failure
import Roaming.Settings

/-!
# Drafts of settings

A draft says what was asked for, with a gap for everything that was not. `Draft.resolve` fills the
gaps with defaults and checks the result. The checks run in one order (version, profile, penalty,
echo count, intervals) and the first that fails is the one reported. The bounds of the registry are
not checked but raised to one, and a profile loses the blanks around it.
-/

namespace Roaming.Settings

/-- Settings as asked for; version zero stands for the current version. -/
structure Draft where
  version : UInt32
  profile : Option String
  qualityPenalty : Option Int32
  pingCount : Option UInt32
  settle : Option UInt64
  shortInterval : Option UInt64
  longInterval : Option UInt64
  maxEntries : Option UInt64
  staleAfterScans : Option UInt64
deriving DecidableEq

namespace Draft

/-- The draft that asks for nothing. -/
def empty : Draft where
  version := 0
  profile := none
  qualityPenalty := none
  pingCount := none
  settle := none
  shortInterval := none
  longInterval := none
  maxEntries := none
  staleAfterScans := none

/-- The draft that asks for given settings in full. -/
def ofSettings (s : Settings) : Draft where
  version := s.version
  profile := some s.profile
  qualityPenalty := some s.qualityPenalty
  pingCount := some s.pingCount
  settle := some s.timing.settle
  shortInterval := some s.timing.shortInterval
  longInterval := some s.timing.longInterval
  maxEntries := some s.limits.maxEntries
  staleAfterScans := some s.limits.staleAfterScans

/-- The version a draft asks for. -/
def effectiveVersion (d : Draft) : UInt32 :=
  if d.version = 0 then currentVersion else d.version

/-- The profile a draft asks for, without the blanks around it. -/
def effectiveProfile (d : Draft) : String :=
  (d.profile.map Text.trim).getD defaultProfile

/-- The settings a draft asks for, with every gap filled and nothing checked. -/
def filled (d : Draft) : Settings where
  version := d.effectiveVersion
  profile := d.effectiveProfile
  qualityPenalty := d.qualityPenalty.getD default.qualityPenalty
  pingCount := d.pingCount.getD default.pingCount
  timing :=
    { settle := d.settle.getD default.timing.settle
      shortInterval := d.shortInterval.getD default.timing.shortInterval
      longInterval := d.longInterval.getD default.timing.longInterval }
  limits :=
    { maxEntries := max 1 (d.maxEntries.getD default.limits.maxEntries)
      staleAfterScans := max 1 (d.staleAfterScans.getD default.limits.staleAfterScans) }

/-- The first check that settings fail, if any. -/
def fault? (s : Settings) : Option SettingsFault :=
  if s.version ≠ currentVersion then some (.unsupportedVersion s.version)
  else if s.profile = "" then some .emptyProfile
  else if s.qualityPenalty < 0 then some (.negativePenalty s.qualityPenalty)
  else if s.pingCount = 0 then some .noPings
  else if s.timing.shortInterval = 0 ∨ s.timing.longInterval = 0 then some .zeroInterval
  else none

/-- The checked settings of a draft, or the first fault in it. -/
def resolve (d : Draft) : Except SettingsFault Settings :=
  match fault? d.filled with
  | some fault => .error fault
  | none => .ok d.filled

end Draft

end Roaming.Settings
