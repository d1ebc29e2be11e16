import Roaming.Agent
import Roaming.Proofs.Drafts

/-!
# Where settings come from

Settings come from a draft, from a document, or from the command line, which may name a document and
a profile. Two of these ways pass by the checks of a draft: a document of blanks gives the default
settings without being read, and the profile of the command line replaces one that was checked. Both
are safe. The default settings are those of the draft that asks for nothing
(`Draft.resolve_empty`), and the new profile is trimmed and refused if nothing is left of it
(`Agent.withProfile_some_eq_ok_iff`). So however the settings came about, they are sound
(`Agent.sound_of_loadSettings`).
-/

namespace Roaming

namespace Settings

variable {s : Settings} {text : String}

/-- The draft that asks for nothing resolves to the default settings. -/
theorem Draft.resolve_empty : Draft.empty.resolve = .ok default := by
  rfl

theorem sound_default : default.Sound :=
  Draft.sound_of_resolve Draft.resolve_empty

/-- A document of blanks gives the default settings. -/
theorem ofDocument_of_blanks (h : ∀ c ∈ text.toList, Text.isBlank c = true) :
    ofDocument text = .ok default := by
  rw [ofDocument, if_pos (List.all_eq_true.2 h)]

theorem sound_of_ofDocument (h : ofDocument text = .ok s) : s.Sound := by
  rw [ofDocument] at h
  split_ifs at h
  · obtain rfl := Except.ok.inj h
    exact sound_default
  · split at h
    · exact nomatch h
    · exact Draft.sound_of_resolve h

end Settings

namespace Agent

open Settings

variable {disk : Disk} {options : Options} {config : Option String} {profile : String}
  {base s : Settings}

theorem sound_of_settingsOf (h : settingsOf disk config = .ok s) : s.Sound := by
  cases config with
  | none =>
      obtain rfl := Except.ok.inj h
      exact sound_default
  | some path =>
      rw [settingsOf] at h
      split at h
      · exact nomatch h
      · next text _ =>
          cases hdocument : ofDocument text with
          | error fault =>
              rw [hdocument] at h
              exact nomatch h
          | ok read =>
              rw [hdocument] at h
              obtain rfl := Except.ok.inj h
              exact sound_of_ofDocument hdocument

/-- The profile of the command line takes the place of another one unless it is blank. -/
theorem withProfile_some_eq_ok_iff :
    withProfile base (some profile) = .ok s ↔
      (∃ c ∈ profile.toList, Text.isBlank c = false)
        ∧ s = { base with profile := Text.trim profile } := by
  rw [← Text.trim_ne_empty_iff, withProfile]
  by_cases hempty : Text.trim profile = ""
  · simp [hempty]
  · simp [hempty, eq_comm]

theorem loadSettings_eq_ok_iff :
    loadSettings disk options = .ok s ↔
      ∃ base, settingsOf disk options.config = .ok base
        ∧ withProfile base options.profile = .ok s := by
  rw [loadSettings]
  cases settingsOf disk options.config with
  | error failure => simp [Bind.bind, Except.bind]
  | ok base => simp [Bind.bind, Except.bind]

/-- **The settings that a command line asks for are sound.** -/
theorem sound_of_loadSettings (h : loadSettings disk options = .ok s) : s.Sound := by
  obtain ⟨base, hbase, hprofile⟩ := loadSettings_eq_ok_iff.1 h
  have hsound := sound_of_settingsOf hbase
  cases hasked : options.profile with
  | none =>
      rw [hasked] at hprofile
      obtain rfl := Except.ok.inj hprofile
      exact hsound
  | some profile =>
      rw [hasked, withProfile] at hprofile
      split_ifs at hprofile with hempty
      obtain rfl := Except.ok.inj hprofile
      exact { hsound with
        profile_ne := hempty
        profile_trimmed := Text.isTrimmed_trim profile }

/-- The profile of the command line changes nothing but the profile. -/
theorem loadSettings_with_profile_eq_ok_iff :
    loadSettings disk { options with profile := some profile } = .ok s ↔
      ∃ base, loadSettings disk { options with profile := none } = .ok base
        ∧ (∃ c ∈ profile.toList, Text.isBlank c = false)
        ∧ s = { base with profile := Text.trim profile } := by
  rw [loadSettings_eq_ok_iff]
  refine exists_congr fun base => ?_
  rw [withProfile_some_eq_ok_iff, loadSettings_eq_ok_iff]
  simp [withProfile]

end Agent

namespace Settings

/-- **Settings are resolved exactly, safely and idempotently.** A draft resolves exactly if all that
it asks for is allowed, and then to that; otherwise the fault is that of the first check that it
fails. Whatever a draft resolves to is sound, and so are the settings that a command line asks for.
Sound settings, asked for in full, resolve to themselves. The draft that asks for nothing resolves
to the default settings, which a document of blanks gives as well. A profile on the command line is
refused if it is blank, and otherwise changes the profile and nothing else. -/
theorem resolution_is_exact_safe_and_idempotent :
    (∀ (d : Draft) (s : Settings), d.resolve = .ok s ↔ d.Allowed ∧ s = d.filled)
      ∧ (∀ (d : Draft) (fault : SettingsFault), d.resolve = .error fault ↔
        d.Fails fault ∧ ∀ other, d.Fails other → fault.place ≤ other.place)
      ∧ (∀ (d : Draft) (s : Settings), d.resolve = .ok s → s.Sound)
      ∧ (∀ (disk : Agent.Disk) (options : Agent.Options) (s : Settings),
        Agent.loadSettings disk options = .ok s → s.Sound)
      ∧ (∀ s : Settings, s.Sound → (Draft.ofSettings s).resolve = .ok s)
      ∧ Draft.empty.resolve = .ok default
      ∧ (∀ text : String, (∀ c ∈ text.toList, Text.isBlank c = true) →
        ofDocument text = .ok default)
      ∧ ∀ (disk : Agent.Disk) (options : Agent.Options) (profile : String) (s : Settings),
        Agent.loadSettings disk { options with profile := some profile } = .ok s ↔
          ∃ base, Agent.loadSettings disk { options with profile := none } = .ok base
            ∧ (∃ c ∈ profile.toList, Text.isBlank c = false)
            ∧ s = { base with profile := Text.trim profile } := by
  exact ⟨fun d s => Draft.resolve_eq_ok_iff, fun d fault => Draft.resolve_eq_error_iff,
    fun d s => Draft.sound_of_resolve, fun disk options s => Agent.sound_of_loadSettings,
    fun s => Draft.resolve_ofSettings, Draft.resolve_empty, fun text => ofDocument_of_blanks,
    fun disk options profile s => Agent.loadSettings_with_profile_eq_ok_iff⟩

/-- Of several faults the first is reported: here the profile is blank, the penalty is negative and
an interval is zero. -/
example :
    Draft.resolve { Draft.empty with
      profile := some " ", qualityPenalty := some (-1), longInterval := some 0 }
        = .error .emptyProfile := by
  decide

end Settings

end Roaming
