import Mathlib.Data.Option.Basic
import Roaming.Proofs.Words
import Roaming.Settings.Draft

/-!
# What a draft of settings comes to

A draft resolves if it fails no check, and otherwise to the fault of the first check that it fails
(`Draft.resolve_eq_ok_iff`, `Draft.resolve_eq_error_iff`). The checks are stated on what the draft
asks for: a gap never fails one, since the defaults pass them all. Settings that come out of a draft
are within the bounds that the rest of the library counts on (`Settings.Sound`), and settings within
these bounds, asked for in full, come out as they are (`Draft.resolve_ofSettings`).
-/

namespace Roaming

/-- The place of the check that reports a fault in the order of the checks. -/
def SettingsFault.place : SettingsFault → Nat
  | .unreadable => 0
  | .unsupportedVersion _ => 1
  | .emptyProfile => 2
  | .negativePenalty _ => 3
  | .noPings => 4
  | .zeroInterval => 5
  | .described _ => 6

namespace Settings

/-- The bounds that checked settings keep. -/
structure Sound (s : Settings) : Prop where
  version : s.version = 1
  profile_ne : s.profile ≠ ""
  profile_trimmed : Text.IsTrimmed s.profile
  penalty : 0 ≤ s.qualityPenalty
  pings : 1 ≤ s.pingCount
  shortInterval : 1 ≤ s.timing.shortInterval
  longInterval : 1 ≤ s.timing.longInterval
  maxEntries : 1 ≤ s.limits.maxEntries
  staleAfterScans : 1 ≤ s.limits.staleAfterScans

namespace Draft

/-- What a draft may ask for. -/
structure Allowed (d : Draft) : Prop where
  version : d.version = 0 ∨ d.version = 1
  profile : ∀ p ∈ d.profile, ∃ c ∈ p.toList, Text.isBlank c = false
  penalty : ∀ p ∈ d.qualityPenalty, 0 ≤ p
  pings : ∀ n ∈ d.pingCount, 1 ≤ n
  shortInterval : ∀ n ∈ d.shortInterval, 1 ≤ n
  longInterval : ∀ n ∈ d.longInterval, 1 ≤ n

/-- A draft fails the check that reports a fault. -/
inductive Fails (d : Draft) : SettingsFault → Prop where
  | version (hzero : d.version ≠ 0) (hone : d.version ≠ 1) :
      Fails d (.unsupportedVersion d.version)
  | profile {p : String} (hp : d.profile = some p)
      (hblank : ∀ c ∈ p.toList, Text.isBlank c = true) : Fails d .emptyProfile
  | penalty {p : Int32} (hp : d.qualityPenalty = some p) (hnegative : p < 0) :
      Fails d (.negativePenalty p)
  | pings (hzero : d.pingCount = some 0) : Fails d .noPings
  | intervals (hzero : d.shortInterval = some 0 ∨ d.longInterval = some 0) : Fails d .zeroInterval

variable {d : Draft} {s : Settings} {fault : SettingsFault}

/-! ## What a filled draft fails, the draft asks for -/

theorem filled_version_ne_iff :
    d.filled.version ≠ currentVersion ↔ d.version ≠ 0 ∧ d.version ≠ 1 := by
  rw [filled, effectiveVersion]
  by_cases hzero : d.version = 0
  · simp [hzero]
  · simp [hzero, currentVersion]

theorem filled_profile_eq_empty_iff :
    d.filled.profile = "" ↔
      ∃ p, d.profile = some p ∧ ∀ c ∈ p.toList, Text.isBlank c = true := by
  rw [filled, effectiveProfile]
  cases d.profile with
  | none => simp [defaultProfile]
  | some p => simp [Text.trim_eq_empty_iff]

theorem filled_penalty_neg_iff :
    d.filled.qualityPenalty < 0 ↔ ∃ p, d.qualityPenalty = some p ∧ p < 0 := by
  rw [filled]
  cases d.qualityPenalty with
  | none => simp [default]
  | some p => simp

/-- A gap is filled with the default, so only what is asked for can be something else. -/
theorem getD_eq_iff_of_ne {α : Type} {asked : Option α} {default x : α} (hdefault : default ≠ x) :
    asked.getD default = x ↔ asked = some x := by
  rw [Option.getD_eq_iff]
  exact or_iff_left fun h => hdefault h.2

theorem filled_pings_eq_zero_iff : d.filled.pingCount = 0 ↔ d.pingCount = some 0 :=
  getD_eq_iff_of_ne (by decide)

theorem filled_shortInterval_eq_zero_iff :
    d.filled.timing.shortInterval = 0 ↔ d.shortInterval = some 0 :=
  getD_eq_iff_of_ne (by decide)

theorem filled_longInterval_eq_zero_iff :
    d.filled.timing.longInterval = 0 ↔ d.longInterval = some 0 :=
  getD_eq_iff_of_ne (by decide)

/-! ## The fault that is reported -/

/-- What is reported is a check that the draft fails. -/
theorem fails_of_fault? (h : fault? d.filled = some fault) : d.Fails fault := by
  rw [fault?] at h
  split_ifs at h with hversion hprofile hpenalty hpings hintervals
  · obtain rfl := Option.some.inj h
    obtain ⟨hzero, hone⟩ := filled_version_ne_iff.1 hversion
    have hasked : d.filled.version = d.version := if_neg hzero
    rw [hasked]
    exact .version hzero hone
  · obtain rfl := Option.some.inj h
    obtain ⟨p, hp, hblank⟩ := filled_profile_eq_empty_iff.1 hprofile
    exact .profile hp hblank
  · obtain rfl := Option.some.inj h
    obtain ⟨p, hp, hnegative⟩ := filled_penalty_neg_iff.1 hpenalty
    have hasked : d.filled.qualityPenalty = p := by
      rw [filled, hp]
      rfl
    rw [hasked]
    exact .penalty hp hnegative
  · obtain rfl := Option.some.inj h
    exact .pings (filled_pings_eq_zero_iff.1 hpings)
  · obtain rfl := Option.some.inj h
    rw [filled_shortInterval_eq_zero_iff, filled_longInterval_eq_zero_iff] at hintervals
    exact .intervals hintervals

/-- A draft that fails a check is reported for that check or for an earlier one. -/
theorem Fails.exists_first (h : d.Fails fault) :
    ∃ first, fault? d.filled = some first ∧ first.place ≤ fault.place := by
  rw [fault?]
  cases h with
  | version hzero hone =>
      rw [if_pos (filled_version_ne_iff.2 ⟨hzero, hone⟩)]
      exact ⟨_, rfl, Nat.le_refl 1⟩
  | profile hp hblank =>
      have hprofile : d.filled.profile = "" := filled_profile_eq_empty_iff.2 ⟨_, hp, hblank⟩
      split_ifs <;> exact ⟨_, rfl, by simp [SettingsFault.place]⟩
  | penalty hp hnegative =>
      have hpenalty := filled_penalty_neg_iff.2 ⟨_, hp, hnegative⟩
      split_ifs <;> exact ⟨_, rfl, by simp [SettingsFault.place]⟩
  | pings hzero =>
      have hpings := filled_pings_eq_zero_iff.2 hzero
      split_ifs <;> exact ⟨_, rfl, by simp [SettingsFault.place]⟩
  | intervals hzero =>
      rw [← filled_shortInterval_eq_zero_iff, ← filled_longInterval_eq_zero_iff] at hzero
      split_ifs <;> exact ⟨_, rfl, by simp [SettingsFault.place]⟩

/-- Each check reports one fault. -/
theorem Fails.eq_of_place_eq {other : SettingsFault} (h : d.Fails fault) (hother : d.Fails other)
    (hplace : fault.place = other.place) : fault = other := by
  cases h <;> cases hother <;> simp_all [SettingsFault.place]

theorem fault?_filled_eq_some_iff :
    fault? d.filled = some fault ↔
      d.Fails fault ∧ ∀ other, d.Fails other → fault.place ≤ other.place := by
  constructor
  · intro h
    refine ⟨fails_of_fault? h, fun other hother => ?_⟩
    obtain ⟨first, hfirst, hle⟩ := hother.exists_first
    obtain rfl := Option.some.inj (h.symm.trans hfirst)
    exact hle
  · rintro ⟨hfails, hleast⟩
    obtain ⟨first, hfirst, hle⟩ := hfails.exists_first
    have hsame := (fails_of_fault? hfirst).eq_of_place_eq hfails
      (Nat.le_antisymm hle (hleast first (fails_of_fault? hfirst)))
    rw [hfirst, hsame]

/-! ## Drafts without a fault -/

theorem fault?_eq_none_iff :
    fault? s = none ↔ s.version = 1 ∧ s.profile ≠ "" ∧ 0 ≤ s.qualityPenalty ∧ 1 ≤ s.pingCount
      ∧ 1 ≤ s.timing.shortInterval ∧ 1 ≤ s.timing.longInterval := by
  have hpings : 1 ≤ s.pingCount ↔ s.pingCount ≠ 0 := by grind
  have hshort : 1 ≤ s.timing.shortInterval ↔ s.timing.shortInterval ≠ 0 := by grind
  have hlong : 1 ≤ s.timing.longInterval ↔ s.timing.longInterval ≠ 0 := by grind
  rw [hpings, hshort, hlong, ← Int32.not_lt, fault?, currentVersion]
  constructor
  · intro h
    split_ifs at h with hversion hprofile hpenalty hnone hzero
    exact ⟨not_not.1 hversion, hprofile, hpenalty, hnone, not_or.1 hzero⟩
  · rintro ⟨hversion, hprofile, hpenalty, hnone, hzero⟩
    rw [if_neg (not_not.2 hversion), if_neg hprofile, if_neg hpenalty, if_neg hnone,
      if_neg (not_or.2 hzero)]

/-- A gap is filled with a default that has a property, so only what is asked for can lack it. -/
theorem getD_iff_forall {α : Type} {P : α → Prop} {asked : Option α} {default : α}
    (hdefault : P default) : P (asked.getD default) ↔ ∀ x ∈ asked, P x := by
  cases asked with
  | none => simp [hdefault]
  | some x => simp

theorem fault?_filled_eq_none_iff : fault? d.filled = none ↔ d.Allowed := by
  have hversion : d.filled.version = 1 ↔ d.version = 0 ∨ d.version = 1 :=
    not_iff_not.1 (filled_version_ne_iff.trans not_or.symm)
  have hprofile : d.filled.profile ≠ "" ↔
      ∀ p ∈ d.profile, ∃ c ∈ p.toList, Text.isBlank c = false := by
    rw [Ne, filled_profile_eq_empty_iff]
    simp
  have hpenalty : 0 ≤ d.filled.qualityPenalty ↔ ∀ p ∈ d.qualityPenalty, 0 ≤ p :=
    getD_iff_forall (P := (0 ≤ ·)) (by decide)
  have hpings : 1 ≤ d.filled.pingCount ↔ ∀ n ∈ d.pingCount, 1 ≤ n :=
    getD_iff_forall (P := (1 ≤ ·)) (by decide)
  have hshort : 1 ≤ d.filled.timing.shortInterval ↔ ∀ n ∈ d.shortInterval, 1 ≤ n :=
    getD_iff_forall (P := (1 ≤ ·)) (by decide)
  have hlong : 1 ≤ d.filled.timing.longInterval ↔ ∀ n ∈ d.longInterval, 1 ≤ n :=
    getD_iff_forall (P := (1 ≤ ·)) (by decide)
  rw [fault?_eq_none_iff, hversion, hprofile, hpenalty, hpings, hshort, hlong]
  constructor
  · rintro ⟨hversion, hprofile, hpenalty, hpings, hshort, hlong⟩
    exact ⟨hversion, hprofile, hpenalty, hpings, hshort, hlong⟩
  · rintro ⟨hversion, hprofile, hpenalty, hpings, hshort, hlong⟩
    exact ⟨hversion, hprofile, hpenalty, hpings, hshort, hlong⟩

/-- **A draft resolves exactly if all that it asks for is allowed**, and then to that. -/
theorem resolve_eq_ok_iff : d.resolve = .ok s ↔ d.Allowed ∧ s = d.filled := by
  rw [← fault?_filled_eq_none_iff, resolve]
  cases fault? d.filled with
  | none => simp [eq_comm]
  | some fault => simp

/-- **Otherwise the first check that it fails is reported.** -/
theorem resolve_eq_error_iff :
    d.resolve = .error fault ↔
      d.Fails fault ∧ ∀ other, d.Fails other → fault.place ≤ other.place := by
  rw [← fault?_filled_eq_some_iff, resolve]
  cases fault? d.filled with
  | none => simp
  | some first => simp

/-! ## Sound settings -/

theorem isTrimmed_filled_profile (d : Draft) : Text.IsTrimmed d.filled.profile := by
  have htrim : ∃ p, d.filled.profile = Text.trim p := by
    rw [filled, effectiveProfile]
    cases d.profile with
    | none => exact ⟨defaultProfile, rfl⟩
    | some p => exact ⟨p, rfl⟩
  obtain ⟨p, hp⟩ := htrim
  rw [hp]
  exact Text.isTrimmed_trim p

theorem one_le_max (n : UInt64) : 1 ≤ max 1 n := by
  show 1 ≤ if 1 ≤ n then n else 1
  split_ifs with h
  · exact h
  · exact UInt64.le_refl 1

/-- **What a draft resolves to is sound.** -/
theorem sound_of_resolve (h : d.resolve = .ok s) : s.Sound := by
  obtain ⟨hallowed, rfl⟩ := resolve_eq_ok_iff.1 h
  obtain ⟨hversion, hprofile, hpenalty, hpings, hshort, hlong⟩ :=
    fault?_eq_none_iff.1 (fault?_filled_eq_none_iff.2 hallowed)
  exact ⟨hversion, hprofile, isTrimmed_filled_profile d, hpenalty, hpings, hshort, hlong,
    one_le_max _, one_le_max _⟩

/-- Checked settings have no negative penalty. -/
theorem penalty_nonneg (h : d.resolve = .ok s) : 0 ≤ s.qualityPenalty.toInt :=
  Int32.le_iff_toInt_le.1 (sound_of_resolve h).penalty

/-- Sound settings are what the draft that asks for them in full is filled to. -/
theorem filled_ofSettings (h : s.Sound) : (ofSettings s).filled = s := by
  have hversion : (ofSettings s).effectiveVersion = s.version := by
    rw [effectiveVersion, ofSettings, h.version]
    rfl
  have hprofile : (ofSettings s).effectiveProfile = s.profile := h.profile_trimmed.trim_eq
  have hentries : max 1 s.limits.maxEntries = s.limits.maxEntries := if_pos h.maxEntries
  have hscans : max 1 s.limits.staleAfterScans = s.limits.staleAfterScans :=
    if_pos h.staleAfterScans
  rw [filled, hversion, hprofile]
  show { s with limits := ⟨max 1 s.limits.maxEntries, max 1 s.limits.staleAfterScans⟩ } = s
  rw [hentries, hscans]

/-- **Sound settings, asked for in full, resolve to themselves.** -/
theorem resolve_ofSettings (h : s.Sound) : (ofSettings s).resolve = .ok s := by
  rw [resolve_eq_ok_iff, ← fault?_filled_eq_none_iff, filled_ofSettings h, fault?_eq_none_iff]
  exact ⟨⟨h.version, h.profile_ne, h.penalty, h.pings, h.shortInterval, h.longInterval⟩, rfl⟩

end Draft

end Settings

end Roaming
