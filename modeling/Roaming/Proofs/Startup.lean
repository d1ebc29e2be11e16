import Roaming.Proofs.Iteration

/-!
# The ways a start can end

`Startup` lists the six ways in which a start can end, each with the answer, the monitor it leaves
and the events in their order, and `startup_iff` says that these are exactly the behaviours of
`Monitor.start`.
-/

namespace Roaming.Monitor

variable {σ : Type} {host : Host σ} {m : Monitor} {s : σ}

/-- The ways a start of a monitor can end. -/
inductive Startup (host : Host σ) (m : Monitor) (s : σ) :
    Trace σ (Except Failure Phase × Monitor) → Prop where
  /-- The profile could not be asked for. -/
  | unanswered {failure : Failure} {s₁ : σ} (hasked : host.isAvailable s = (.error failure, s₁)) :
      Startup host m s ⟨(.error failure, m), [.asked (.error failure)], s₁⟩
  /-- There is no wireless profile. -/
  | unavailable {s₁ : σ} (hasked : host.isAvailable s = (.ok false, s₁)) :
      Startup host m s
        ⟨(.ok .unavailable, { m with phase := .unavailable }),
          [.asked (.ok false), .noted .noWirelessProfile], s₁⟩
  /-- A dry run leaves the pin alone. -/
  | leftAlone {s₁ : σ} (hasked : host.isAvailable s = (.ok true, s₁)) (hdry : m.dryRun = true) :
      Startup host m s
        ⟨(.ok .monitoring, { m with phase := .monitoring }),
          [.asked (.ok true), .noted .pinLeftAlone], s₁⟩
  /-- The pin could not be cleared. -/
  | unpinFailed {failure : Failure} {s₁ s₂ : σ} (hasked : host.isAvailable s = (.ok true, s₁))
      (hdry : m.dryRun = false) (hpin : host.pin none s₁ = (.error failure, s₂)) :
      Startup host m s
        ⟨(.error failure, m),
          [.asked (.ok true), .noted .clearingPin, .pinned none (.error failure)], s₂⟩
  /-- The pin was cleared, and the restart of the network failed. -/
  | restartFailed {failure : Failure} {s₁ s₂ s₃ : σ}
      (hasked : host.isAvailable s = (.ok true, s₁)) (hdry : m.dryRun = false)
      (hpin : host.pin none s₁ = (.ok (), s₂)) (hrestart : host.restart s₂ = (.error failure, s₃)) :
      Startup host m s
        ⟨(.error failure, m),
          [.asked (.ok true), .noted .clearingPin, .pinned none (.ok ()),
            .restarted (.error failure)], s₃⟩
  /-- The pin was cleared and the network restarted. -/
  | cleared {s₁ s₂ s₃ : σ} (hasked : host.isAvailable s = (.ok true, s₁))
      (hdry : m.dryRun = false) (hpin : host.pin none s₁ = (.ok (), s₂))
      (hrestart : host.restart s₂ = (.ok (), s₃)) :
      Startup host m s
        ⟨(.ok .monitoring, { m with phase := .monitoring }),
          [.asked (.ok true), .noted .clearingPin, .pinned none (.ok ()), .restarted (.ok ()),
            .slept m.settle],
          host.sleep m.settle s₃⟩

/-- A start asks for the profile first. -/
theorem start_of_asked {reply : Except Failure Bool} {s₁ : σ}
    (hasked : host.isAvailable s = (reply, s₁)) :
    m.start host s =
      let rest : Trace σ (Except Failure Phase × Monitor) :=
        (match reply with
          | .error failure => pure (.error failure, m)
          | .ok false => do
            Action.note .noWirelessProfile
            return (.ok .unavailable, { m with phase := .unavailable })
          | .ok true =>
            if m.dryRun then do
              Action.note .pinLeftAlone
              return (.ok .monitoring, { m with phase := .monitoring })
            else do
              Action.note .clearingPin
              match ← Repinning.reset host m.settle with
              | .error failure => return (.error failure, m)
              | .ok () => return (.ok .monitoring, { m with phase := .monitoring }) :
          Action σ _) s₁
      ⟨rest.value, .asked reply :: rest.events, rest.state⟩ := by
  rw [start, Action.bind_apply, Host.askAvailable, Action.ask_apply hasked]
  rfl

theorem Startup.start_eq {t : Trace σ (Except Failure Phase × Monitor)} (h : Startup host m s t) :
    m.start host s = t := by
  cases h with
  | unanswered hasked | unavailable hasked =>
      rw [start_of_asked hasked]
      rfl
  | leftAlone hasked hdry =>
      rw [start_of_asked hasked]
      simp only [hdry, if_true]
      rfl
  | unpinFailed hasked hdry hpin =>
      rw [start_of_asked hasked]
      simp only [hdry, Bool.false_eq_true, if_false, Action.bind_apply, Action.note_apply,
        Repinning.reset, Repinning.pinAndRestart, Host.setPin, Action.ask_apply hpin]
      rfl
  | restartFailed hasked hdry hpin hrestart =>
      rw [start_of_asked hasked]
      simp only [hdry, Bool.false_eq_true, if_false, Action.bind_apply, Action.note_apply,
        Repinning.reset, Repinning.pinAndRestart, Host.setPin, Action.ask_apply hpin,
        Repinning.restart_of_error hrestart]
      rfl
  | cleared hasked hdry hpin hrestart =>
      rw [start_of_asked hasked]
      simp only [hdry, Bool.false_eq_true, if_false, Action.bind_apply, Action.note_apply,
        Repinning.reset, Repinning.pinAndRestart, Host.setPin, Action.ask_apply hpin,
        Repinning.restart_of_ok hrestart]
      rfl

/-- Every start ends in one of the six ways. -/
theorem exists_startup (host : Host σ) (m : Monitor) (s : σ) : ∃ t, Startup host m s t := by
  rcases hasked : host.isAvailable s with ⟨failure | _ | _, s₁⟩
  · exact ⟨_, .unanswered hasked⟩
  · exact ⟨_, .unavailable hasked⟩
  · cases hdry : m.dryRun with
    | true => exact ⟨_, .leftAlone hasked hdry⟩
    | false =>
        rcases hpin : host.pin none s₁ with ⟨failure | _, s₂⟩
        · exact ⟨_, .unpinFailed hasked hdry hpin⟩
        · rcases hrestart : host.restart s₂ with ⟨failure | _, s₃⟩
          · exact ⟨_, .restartFailed hasked hdry hpin hrestart⟩
          · exact ⟨_, .cleared hasked hdry hpin hrestart⟩

/-- **The ways of a start are what a start does**, neither more nor less. -/
theorem startup_iff {t : Trace σ (Except Failure Phase × Monitor)} :
    Startup host m s t ↔ m.start host s = t := by
  constructor
  · intro h
    exact h.start_eq
  · rintro rfl
    obtain ⟨t, ht⟩ := exists_startup host m s
    rw [ht.start_eq]
    exact ht

/-- A start changes nothing but the phase. -/
theorem exists_phase_start (host : Host σ) (m : Monitor) (s : σ) :
    ∃ phase, (m.start host s).value.2 = { m with phase } := by
  obtain ⟨t, ht⟩ := exists_startup host m s
  rw [ht.start_eq]
  cases ht <;> exact ⟨_, rfl⟩

end Roaming.Monitor
