import Roaming.Proofs.FloatRange
import Roaming.Proofs.LatencyHistory
import Roaming.Proofs.Measurement

/-!
# Which probes spoil a latency

A numeral is read as the float next to its number. So a figure is finite if it is a number below
the point where rounding ends in infinity (`Decimal.isFinite_toFloat_iff`), and else it is not: the
words for the infinities and for what is no number are figures too. Nothing between the summary and
the registry looks at that again. A sum and a mean are finite only if both operands are, so one odd
sample spoils a latency for as long as it is stored (`Registry.spoiled_refreshAll`); and figures far
below the bound keep every latency finite, since a mean of two moderate numbers is moderate
(`Registry.not_spoiled_refreshAll`).
-/

namespace Roaming

open Binary64

/-! ## Figures -/

namespace Decimal

variable {K : Int} {c : Nat} {e : Int} {d : Decimal} {bound : ℚ}

/-- A finite number whose size is below a bound. -/
def IsBelow (bound : ℚ) : Decimal → Prop
  | .finite _ coefficient exponent => (coefficient * 10 ^ exponent : ℚ) < bound
  | _ => False

theorem within_zero (hK : -1074 ≤ K) : Within K 0.0 :=
  Within.mono (by decide +kernel : Within (-1074) 0.0) hK

theorem not_within_infinity (hK : K ≤ 971) : ¬ Within K infinity := by
  intro h
  exact absurd (h.mono hK) (by decide +kernel : ¬ Within 971 infinity)

/-- From `10 ^ 401` on a number is rounded to infinity. -/
theorem ceiling_le_of_large (hc : 0 < c) (he : 400 < e) (hK : K ≤ 971) :
    ceiling K ≤ c * 10 ^ e := by
  have hcoefficient : (1 : ℚ) ≤ c := by
    exact_mod_cast hc
  have hpower : (10 : ℚ) ^ (401 : Int) ≤ 10 ^ e := zpow_le_zpow_right₀ (by norm_num) he
  have htop : ceiling K ≤ 2 ^ (1024 : Int) := by
    have hrest := two_zpow_pos (K - 1)
    have hle : (2 : ℚ) ^ (K + 53) ≤ 2 ^ (1024 : Int) := two_zpow_le (by omega)
    rw [ceiling_eq]
    linarith
  calc ceiling K
      ≤ 2 ^ (1024 : Int) := htop
    _ ≤ 2 ^ (3 * 401 : Int) := two_zpow_le (by omega)
    _ = 8 ^ (401 : Int) := by
        rw [zpow_mul]
        norm_num
    _ ≤ 10 ^ (401 : Int) := zpow_le_zpow_left₀ (by omega) (by norm_num) (by norm_num)
    _ ≤ c * 10 ^ e := by
        rw [← one_mul ((10 : ℚ) ^ (401 : Int))]
        exact mul_le_mul hcoefficient hpower (zpow_pos (by norm_num) _).le (Nat.cast_nonneg c)

/-- With fewer bits in the coefficient than in the divisor a number is less than one. -/
theorem lt_one_of_small (he : e < 0) (hbits : c.log2 + 1 ≤ 3 * e.natAbs) :
    (c * 10 ^ e : ℚ) < 1 := by
  have hcoefficient : c < 10 ^ e.natAbs := by
    calc c < 2 ^ (c.log2 + 1) := Nat.lt_log2_self
      _ ≤ 2 ^ (3 * e.natAbs) := Nat.pow_le_pow_right (by decide) hbits
      _ = 8 ^ e.natAbs := Nat.pow_mul 2 3 e.natAbs
      _ ≤ 10 ^ e.natAbs := Nat.pow_le_pow_left (by decide) _
  have hexponent : e = -(e.natAbs : Int) := by omega
  rw [hexponent, zpow_neg, zpow_natCast, ← div_eq_mul_inv, div_lt_one (by positivity)]
  exact_mod_cast hcoefficient

/-- A magnitude is rounded by its size, also where its size alone settles it. -/
theorem within_magnitude_iff (hK : 128 ≤ K) (hK' : K ≤ 971) :
    Within K (magnitude c e) ↔ (c * 10 ^ e : ℚ) < ceiling K := by
  rw [magnitude]
  by_cases hzero : c = 0
  · rw [if_pos hzero, hzero, Nat.cast_zero, zero_mul]
    exact iff_of_true (within_zero (by omega)) (ceiling_pos K)
  · rw [if_neg hzero]
    have hpos : 0 < c := Nat.pos_of_ne_zero hzero
    by_cases hlarge : e > 400
    · rw [if_pos hlarge]
      exact iff_of_false (not_within_infinity hK') (not_lt.2 (ceiling_le_of_large hpos hlarge hK'))
    · rw [if_neg hlarge]
      by_cases hsmall : (decide (3 * e.natAbs > c.log2 + 1101) && decide (e < 0)) = true
      · rw [if_pos hsmall]
        simp only [Bool.and_eq_true, decide_eq_true_eq] at hsmall
        refine iff_of_true (within_zero (by omega)) ?_
        calc (c * 10 ^ e : ℚ)
            < 1 := lt_one_of_small hsmall.2 (by omega)
          _ ≤ ceiling 0 := by
              rw [ceiling]
              norm_num
          _ ≤ ceiling K := ceiling_le (by omega)
      · rw [if_neg hsmall]
        simp only [Bool.and_eq_true, decide_eq_true_eq, not_and, gt_iff_lt] at hsmall
        exact within_ofScientific_iff hpos (by omega) (by omega) hK hK'

/-- **A figure is rounded by its size.** -/
theorem within_toFloat_iff (hK : 128 ≤ K) (hK' : K ≤ 971) :
    Within K d.toFloat ↔ d.IsBelow (ceiling K) := by
  cases d with
  | finite negative c e =>
      rw [IsBelow, ← within_magnitude_iff hK hK', toFloat]
      cases negative
      · exact Iff.rfl
      · exact within_neg_iff (by omega) hK'
  | infinite negative =>
      refine iff_of_false ?_ id
      cases negative
      · exact not_within_infinity hK'
      · exact fun h => not_within_infinity hK' ((within_neg_iff (by omega) hK').1 h)
  | notANumber =>
      refine iff_of_false (fun h => ?_) id
      exact absurd (h.mono hK')
        (by decide +kernel : ¬ Within 971 (Float.ofBits 0x7FF8000000000000))

/-- A figure is finite if it is a number that is not rounded to infinity. -/
theorem isFinite_toFloat_iff : d.toFloat.isFinite = true ↔ d.IsBelow (2 ^ 1024 - 2 ^ 970) := by
  have hceiling : ceiling 971 = 2 ^ 1024 - 2 ^ 970 := by
    rw [ceiling_eq, show (971 + 53 : Int) = (1024 : Nat) from rfl,
      show (971 - 1 : Int) = (970 : Nat) from rfl, zpow_natCast, zpow_natCast]
  rw [isFinite_iff_within, within_toFloat_iff (by omega) (by omega), hceiling]

theorem IsBelow.mono (h : d.IsBelow bound) {bound' : ℚ} (hle : bound ≤ bound') :
    d.IsBelow bound' := by
  cases d with
  | finite negative c e => exact lt_of_lt_of_le h hle
  | infinite negative => exact h
  | notANumber => exact h

/-- Numbers up to `10 ^ 300` are so small that two of them can be added twice over. -/
theorem within_of_isBelow (h : d.IsBelow (10 ^ 300)) : Within 969 d.toFloat := by
  refine (within_toFloat_iff (by omega) (by omega)).2 (h.mono ?_)
  calc (10 : ℚ) ^ 300
      = 1000 ^ (100 : Int) := by
        rw [show (1000 : ℚ) = 10 ^ 3 by norm_num, zpow_ofNat, ← pow_mul]
    _ ≤ 1024 ^ (100 : Int) := zpow_le_zpow_left₀ (by omega) (by norm_num) (by norm_num)
    _ = 2 ^ (10 * 100 : Int) := by
        rw [zpow_mul]
        norm_num
    _ ≤ ceiling 969 := by
        have hle : (2 : ℚ) ^ (10 * 100 : Int) ≤ 2 ^ (969 + 52 : Int) := two_zpow_le (by omega)
        refine hle.trans ?_
        rw [ceiling, two_zpow_add, mul_comm]
        exact mul_le_mul_of_nonneg_right (by norm_num) (two_zpow_pos 969).le

end Decimal

/-- All figures are below a bound. -/
structure Figures.AreBelow (f : Figures) (bound : ℚ) : Prop where
  min : f.min.IsBelow bound
  avg : f.avg.IsBelow bound
  max : f.max.IsBelow bound
  mdev : f.mdev.IsBelow bound

/-- All round trip times are finite. -/
structure RoundTrip.IsFinite (r : RoundTrip) : Prop where
  min : r.min.isFinite = true
  avg : r.avg.isFinite = true
  max : r.max.isFinite = true
  mdev : r.mdev.isFinite = true

/-- Times are finite exactly if none of their figures is a word or rounded to infinity. -/
theorem Figures.isFinite_times_iff (f : Figures) :
    f.times.IsFinite ↔ f.AreBelow (2 ^ 1024 - 2 ^ 970) := by
  constructor
  · intro h
    exact ⟨Decimal.isFinite_toFloat_iff.1 h.min, Decimal.isFinite_toFloat_iff.1 h.avg,
      Decimal.isFinite_toFloat_iff.1 h.max, Decimal.isFinite_toFloat_iff.1 h.mdev⟩
  · intro h
    exact ⟨Decimal.isFinite_toFloat_iff.2 h.min, Decimal.isFinite_toFloat_iff.2 h.avg,
      Decimal.isFinite_toFloat_iff.2 h.max, Decimal.isFinite_toFloat_iff.2 h.mdev⟩

/-! ## Latencies -/

namespace Latency

variable {kept : Option Float} {old sample x : Float} {samples : List Float}

theorem within_sentinel (pings : UInt32) : Within 970 (sentinel pings) := by
  have hpings : Within 0 pings.toFloat :=
    within_ofNat_of_lt (pings.toNat_lt.trans (by decide))
  have hdouble : Within 2 (2.0 * pings.toFloat) :=
    hpings.mul_left between_two (by omega) (by omega) (by omega)
  exact hdouble.mul between_thousand (by omega) (by omega) (by omega)

theorem within_smooth (hold : Within 970 old) (hsample : Within 970 sample) :
    Within 970 (smooth (some old) sample) :=
  (hold.add hsample (by omega) (by omega)).div between_two (by omega) (by omega) (by omega)

theorem isFinite_of_smooth (h : (smooth (some old) sample).isFinite = true) :
    old.isFinite = true ∧ sample.isFinite = true :=
  isFinite_of_add (isFinite_of_div between_two h)

/-- Samples of moderate size keep a latency moderate. -/
theorem within_smoothAll (hkept : ∀ old, kept = some old → Within 970 old)
    (hsamples : ∀ sample ∈ samples, Within 970 sample) (h : smoothAll kept samples = some x) :
    Within 970 x := by
  induction samples generalizing kept with
  | nil =>
      rw [smoothAll_nil] at h
      exact hkept x h
  | cons sample samples ih =>
      rw [smoothAll_cons] at h
      rw [List.forall_mem_cons] at hsamples
      refine ih ?_ hsamples.2 h
      intro next hnext
      obtain rfl := Option.some.inj hnext
      cases kept with
      | none => exact hsamples.1
      | some old => exact within_smooth (hkept old rfl) hsamples.1

/-- A latency is finite only if all that went into it is. -/
theorem isFinite_of_smoothAll (h : smoothAll kept samples = some x) (hx : x.isFinite = true) :
    (∀ old, kept = some old → old.isFinite = true)
      ∧ ∀ sample ∈ samples, sample.isFinite = true := by
  induction samples generalizing kept with
  | nil =>
      refine ⟨?_, List.forall_mem_nil _⟩
      intro old hold
      rw [smoothAll_nil] at h
      obtain rfl := Option.some.inj (hold.symm.trans h)
      exact hx
  | cons sample samples ih =>
      rw [smoothAll_cons] at h
      obtain ⟨hnext, hrest⟩ := ih h
      have hsmooth := hnext _ rfl
      rw [List.forall_mem_cons]
      cases kept with
      | none => exact ⟨fun old hold => (nomatch hold), hsmooth, hrest⟩
      | some old =>
          obtain ⟨hold, hsample⟩ := isFinite_of_smooth hsmooth
          refine ⟨?_, hsample, hrest⟩
          rintro _ ⟨⟩
          exact hold

/-- A measurement with the tools is moderate if the figures are. -/
theorem within_measure {τ : Type} {tools : Toolbox τ} (profile : String) {pings : UInt32} {s : τ}
    (h : ∀ f, tools.Measured pings s f → f.AreBelow (10 ^ 300)) :
    Within 970 (measure (NetworkManager.host tools profile) pings s).value := by
  obtain ⟨hmeasured, hsentinel⟩ := NetworkManager.value_of_measuring
    (measuring_measure (NetworkManager.host tools profile) pings s)
  by_cases hsome : ∃ f, tools.Measured pings s f
  · obtain ⟨f, hf⟩ := hsome
    rw [hmeasured f hf]
    exact (Decimal.within_of_isBelow (h f hf).avg).add (Decimal.within_of_isBelow (h f hf).mdev)
      (by omega) (by omega)
  · rw [hsentinel (not_exists.1 hsome)]
    exact within_sentinel pings

end Latency

/-! ## Samples -/

/-- Every result of an action over a list is a result of the action for a member. -/
theorem Action.exists_of_mem_mapM {σ α β : Type} {f : α → Action σ β} {as : List α} {s : σ} {b : β}
    (h : b ∈ (as.mapM f s).value) : ∃ a s', (f a s').value = b := by
  induction as generalizing s with
  | nil => exact absurd h List.not_mem_nil
  | cons a as ih =>
      rw [List.mapM_cons] at h
      rcases List.mem_cons.1 h with rfl | hrest
      · exact ⟨a, s, rfl⟩
      · exact ih hrest

namespace Registry

variable {σ : Type} {measure : Action σ Float} {r : Registry} {gs : List Sighting}
  {bssid : String}

/-- Every sample in a history was measured. -/
theorem exists_measure_of_mem_samplesOf {scans : List (List Observation)} {s : σ} {sample : Float}
    (hgs : gs ∈ (takeScans measure scans s).value) (h : sample ∈ Sighting.samplesOf gs bssid) :
    ∃ s', (measure s').value = sample := by
  obtain ⟨rows, s₁, rfl⟩ := Action.exists_of_mem_mapM hgs
  obtain ⟨g, hg, hsample⟩ := List.mem_filterMap.1 h
  obtain ⟨row, s₂, rfl⟩ := Action.exists_of_mem_mapM (List.mem_filter.1 hg).1
  refine ⟨s₂, ?_⟩
  rw [Sighting.take] at hsample
  by_cases hrow : row.inUse = true
  · rw [dif_pos hrow] at hsample
    exact Option.some.inj hsample
  · rw [dif_neg hrow] at hsample
    exact absurd hsample.symm (Option.some_ne_none sample)

/-! ## Stored latencies -/

/-- The latency stored under a BSSID is not finite. -/
def Spoiled (r : Registry) (bssid : String) : Prop :=
  ∃ a x, r.get? bssid = some a ∧ a.latency = some x ∧ x.isFinite = false

/-- One sample that is not finite spoils a latency, and a latency that is spoiled stays so. -/
theorem spoiled_absorb (hstored : ((r.absorb gs).registry.get? bssid).isSome = true)
    (h : r.Spoiled bssid ∨ ∃ sample ∈ Sighting.samplesOf gs bssid, sample.isFinite = false) :
    (r.absorb gs).registry.Spoiled bssid := by
  obtain ⟨a, ha⟩ := Option.isSome_iff_exists.1 hstored
  have hlatency := latency_absorb ha
  have hodd : ¬ ((∀ old, (r.get? bssid).bind (·.latency) = some old → old.isFinite = true)
      ∧ ∀ sample ∈ Sighting.samplesOf gs bssid, sample.isFinite = true) := by
    rintro ⟨hold, hsamples⟩
    rcases h with ⟨b, x, hb, hx, hspoiled⟩ | ⟨sample, hmem, hspoiled⟩
    · rw [hold x (by rw [hb]; exact hx)] at hspoiled
      exact nomatch hspoiled
    · rw [hsamples sample hmem] at hspoiled
      exact nomatch hspoiled
  cases hx : a.latency with
  | none =>
      obtain ⟨hnew, hnone⟩ := Latency.smoothAll_eq_none_iff.1 (hlatency.symm.trans hx)
      refine absurd ⟨?_, ?_⟩ hodd
      · rw [hnew]
        exact fun _ hold => nomatch hold
      · rw [hnone]
        exact List.forall_mem_nil _
  | some x =>
      refine ⟨a, x, ha, hx, Bool.eq_false_iff.2 fun hfinite => hodd ?_⟩
      exact Latency.isFinite_of_smoothAll (hlatency.symm.trans hx) hfinite

theorem spoiled_refresh {rows : List Observation} {s : σ}
    (hstored : ((r.refresh measure rows s).value.registry.get? bssid).isSome = true)
    (h : r.Spoiled bssid ∨ ∃ sample ∈ Observation.samplesFor rows
      (Sighting.measureEach measure rows s).value bssid, sample.isFinite = false) :
    (r.refresh measure rows s).value.registry.Spoiled bssid := by
  rw [refresh_eq_absorb] at hstored ⊢
  refine spoiled_absorb hstored ?_
  rw [Sighting.samplesOf_eq, Sighting.rows_takeAll]
  rwa [Sighting.measureEach_apply] at h

/-- A latency that is spoiled stays so for as long as it is stored. -/
theorem spoiled_refreshAll {scans : List (List Observation)} {s : σ} (h : r.Spoiled bssid)
    (hstored : ∀ early, early <+: scans →
      ((r.refreshAll measure early s).value.get? bssid).isSome = true) :
    (r.refreshAll measure scans s).value.Spoiled bssid := by
  induction scans generalizing r s with
  | nil => exact h
  | cons rows scans ih =>
      have hnext : (r.refresh measure rows s).value.registry.Spoiled bssid :=
        spoiled_refresh (hstored [rows] ⟨scans, rfl⟩) (.inl h)
      refine ih hnext fun early hearly => ?_
      exact hstored (rows :: early) (List.cons_prefix_cons.2 ⟨rfl, hearly⟩)

/-- Moderate measurements never spoil a latency. -/
theorem not_spoiled_refreshAll (hmeasure : ∀ s, Within 970 (measure s).value) (limits : Limits)
    (scans : List (List Observation)) (s : σ) (bssid : String) :
    ¬ ((empty limits).refreshAll measure scans s).value.Spoiled bssid := by
  rintro ⟨a, x, ha, hx, hspoiled⟩
  rw [refreshAll_eq_absorbAll] at ha
  obtain ⟨before, first, later, hhistory, -, -, hlatency⟩ := exists_insertion_latency ha
  have hsamples : ∀ sample ∈ (first :: later).flatMap (Sighting.samplesOf · bssid),
      Within 970 sample := by
    intro sample hmem
    obtain ⟨gs, hgs, hsample⟩ := List.mem_flatMap.1 hmem
    have hin : gs ∈ (takeScans measure scans s).value :=
      hhistory ▸ List.mem_append_right before hgs
    obtain ⟨s', rfl⟩ := exists_measure_of_mem_samplesOf hin hsample
    exact hmeasure s'
  rw [hlatency, ← Latency.smoothAll_none] at hx
  have hnone : ∀ old, (none : Option Float) = some old → Within 970 old :=
    fun _ hold => nomatch hold
  have hwithin := Latency.within_smoothAll hnone hsamples hx
  rw [hwithin.isFinite (by omega)] at hspoiled
  exact nomatch hspoiled

/-- **A figure may be a word, or too large a number, and spoils a latency then.** The times of a
summary are finite exactly if its figures are numbers that are not rounded to infinity, and so is a
measurement only if its mean and its mean deviation are. A sample that is not finite makes the
latency of its access point so, which smoothing never mends while the entry is stored. If figures
are numbers below `10 ^ 300`, all stored latencies are finite. -/
theorem odd_figures_spoil_latencies {τ : Type} (tools : Toolbox τ) (profile : String)
    (pings : UInt32) :
    let measure := Latency.measure (NetworkManager.host tools profile) pings
    (∀ output times, RoundTrip.ofSummary? output = some times →
        ∃ f, RoundTrip.Summarizes output f ∧ f.times = times
          ∧ (times.IsFinite ↔ f.AreBelow (2 ^ 1024 - 2 ^ 970)))
      ∧ (∀ s f, tools.Measured pings s f → (measure s).value.isFinite = true →
        f.avg.IsBelow (2 ^ 1024 - 2 ^ 970) ∧ f.mdev.IsBelow (2 ^ 1024 - 2 ^ 970))
      ∧ (∀ (r : Registry) rows later s bssid, let next := r.refresh measure rows s
        (r.Spoiled bssid ∨ ∃ sample ∈ Observation.samplesFor rows
          (Sighting.measureEach measure rows s).value bssid, sample.isFinite = false) →
        (∀ early, early <+: later → ((next.value.registry.refreshAll measure early
          next.state).value.get? bssid).isSome = true) →
        (next.value.registry.refreshAll measure later next.state).value.Spoiled bssid)
      ∧ ((∀ s f, tools.Measured pings s f → f.AreBelow (10 ^ 300)) →
        ∀ limits scans s bssid,
          ¬ ((empty limits).refreshAll measure scans s).value.Spoiled bssid) := by
  intro measure
  refine ⟨?_, ?_, ?_, ?_⟩
  · intro output times h
    obtain ⟨f, hf, rfl⟩ := RoundTrip.ofSummary?_eq_some_iff.1 h
    exact ⟨f, hf, rfl, f.isFinite_times_iff⟩
  · intro s f hf hfinite
    obtain ⟨hmeasured, -⟩ :=
      NetworkManager.value_of_measuring (Latency.measuring_measure _ pings s)
    rw [hmeasured f hf] at hfinite
    obtain ⟨havg, hmdev⟩ := isFinite_of_add hfinite
    exact ⟨Decimal.isFinite_toFloat_iff.1 havg, Decimal.isFinite_toFloat_iff.1 hmdev⟩
  · intro r rows later s bssid next hodd hstored
    exact spoiled_refreshAll (spoiled_refresh (hstored [] List.nil_prefix) hodd) hstored
  · intro hmoderate limits scans s bssid
    refine not_spoiled_refreshAll (fun s' => ?_) limits scans s bssid
    exact Latency.within_measure profile (hmoderate s')

/-- A word is read as a figure, and a number as infinity. The latency that comes of it stays so when
a good sample follows. -/
theorem words_and_overflows_are_measured :
    let read := fun field => RoundTrip.ofSummary? ("rtt min/avg/max/mdev = " ++ field ++ " ms")
    let inUse : List Observation := [⟨true, "AA", "home", 50, 100⟩]
    let scripted : Action (List Float) Float := fun rest => ⟨rest.headD 20.0, [], rest.tail⟩
    let registry := fun samples : List Float =>
      ((empty Settings.default.limits).refreshAll scripted [inUse, inUse] samples).value
    let latency := fun samples : List Float => ((registry samples).get? "AA").bind (·.latency)
    ((read "1/nan/3/4").map (·.combined.isFinite) = some false
        ∧ (read "1/inf/3/4").map (·.combined.isFinite) = some false
        ∧ (read "1/1e999/3/4").map (·.combined.isFinite) = some false)
      ∧ ((read "1/nan/3/4").bind fun times =>
          (latency [times.combined, 20.0]).map (·.isFinite)) = some false := by
  decide +kernel

end Registry

end Roaming
