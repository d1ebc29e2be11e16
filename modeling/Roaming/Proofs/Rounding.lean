import Mathlib.Algebra.Order.Field.Power
import Mathlib.Data.Rat.Cast.Order
import Mathlib.Tactic.Linarith
import Mathlib.Tactic.NormNum
import Mathlib.Tactic.Positivity
import Mathlib.Tactic.Ring

/-!
# The size of what a number is rounded to

A binary64 has a mantissa of 53 bits, and a number is rounded to it in two steps: its mantissa is
shifted to that many bits, with two residual bits that tell where the number lies above it, and then
rounded by these. Shifting keeps what mantissa and bits describe (`Describes.shiftRight`), and an
odd mantissa is exceeded exactly from half a unit above it on, since a tie goes to the even one
(`Describes.roundedMantissa_le_iff`). The largest mantissa is odd. So the exponent that a number is
rounded to is settled by its size alone, to the last bit (`below_roundWithAccuracy_iff`); that it
does not exceed the largest exponent is the case in point.
-/

namespace Roaming.Binary64

open Float.Model Float.Model.UnpackedFloat

variable {em : ExtendedMantissa} {x y : ℚ} {m n : Nat} {e K K' : Int} {acc : Accuracy} {s : Sign}

/-! ## Powers of two -/

theorem two_zpow_pos (K : Int) : (0 : ℚ) < 2 ^ K :=
  zpow_pos (by norm_num) K

theorem two_zpow_le (h : K ≤ K') : (2 : ℚ) ^ K ≤ 2 ^ K' :=
  zpow_le_zpow_right₀ (by norm_num) h

theorem two_zpow_add (K K' : Int) : (2 : ℚ) ^ (K + K') = 2 ^ K * 2 ^ K' :=
  zpow_add₀ (by norm_num) K K'

/-! ## Mantissas with residual bits -/

/-- A mantissa with its residual bits describes a number: the mantissa is the whole part, and the
bits compare the rest with one half. -/
def Describes : ExtendedMantissa → ℚ → Prop
  | ⟨m, false, false⟩, y => y = m
  | ⟨m, false, true⟩, y => m < y ∧ y < m + 1 / 2
  | ⟨m, true, false⟩, y => y = m + 1 / 2
  | ⟨m, true, true⟩, y => m + 1 / 2 < y ∧ y < m + 1

theorem Describes.mantissa_le (h : Describes em y) : em.mantissa ≤ y := by
  obtain ⟨m, r, t⟩ := em
  cases r <;> cases t <;> simp only [Describes] at h ⊢ <;> linarith

theorem Describes.lt_mantissa_add_one (h : Describes em y) : y < em.mantissa + 1 := by
  obtain ⟨m, r, t⟩ := em
  cases r <;> cases t <;> simp only [Describes] at h ⊢ <;> linarith

/-- Dropping the last bit of a mantissa halves the number. -/
theorem Describes.shiftRightOne (h : Describes em y) : Describes em.shiftRightOne (y / 2) := by
  obtain ⟨m, r, t⟩ := em
  -- the bit that is dropped tells the upper half from the lower
  obtain ⟨k, rfl | rfl⟩ := Nat.even_or_odd' m
  · have hhalf : 2 * k / 2 = k := by omega
    cases r <;> cases t <;>
      simp [Describes, ExtendedMantissa.shiftRightOne, hhalf] at h ⊢ <;> first
        | linarith
        | constructor <;> linarith
  · have hhalf : (2 * k + 1) / 2 = k := by omega
    cases r <;> cases t <;>
      simp [Describes, ExtendedMantissa.shiftRightOne, hhalf] at h ⊢ <;> first
        | linarith
        | constructor <;> linarith

theorem Describes.shiftRight (h : Describes em y) (k : Nat) : Describes (em >>> k) (y / 2 ^ k) := by
  induction k with
  | zero =>
      rw [pow_zero, div_one]
      exact h
  | succ k ih =>
      have hstep := ih.shiftRightOne
      rw [div_div, ← pow_succ] at hstep
      exact hstep

theorem mantissa_le_roundedMantissa (em : ExtendedMantissa) : em.mantissa ≤ em.roundedMantissa := by
  obtain ⟨m, r, t⟩ := em
  cases r <;> cases t <;>
    simp [ExtendedMantissa.roundedMantissa, ExtendedMantissa.accuracy,
      Accuracy.roundToNearestEven]

theorem roundedMantissa_le_add_one (em : ExtendedMantissa) :
    em.roundedMantissa ≤ em.mantissa + 1 := by
  obtain ⟨m, r, t⟩ := em
  cases r <;> cases t <;>
    simp [ExtendedMantissa.roundedMantissa, ExtendedMantissa.accuracy,
      Accuracy.roundToNearestEven]
  omega

/-- An odd mantissa is exceeded from half a unit above it on. -/
theorem Describes.roundedMantissa_le_iff (h : Describes em y) (hodd : n % 2 = 1) :
    em.roundedMantissa ≤ n ↔ y < n + 1 / 2 := by
  have hlow := h.mantissa_le
  have hhigh := h.lt_mantissa_add_one
  have hrounded := roundedMantissa_le_add_one em
  have hmantissa := mantissa_le_roundedMantissa em
  rcases lt_trichotomy em.mantissa n with hless | hsame | hmore
  · have hcast : (em.mantissa : ℚ) + 1 ≤ n := by exact_mod_cast hless
    exact iff_of_true (by omega) (by linarith)
  · -- the residual bits decide, and a tie goes to the even mantissa above
    obtain ⟨m, r, t⟩ := em
    obtain rfl : m = n := hsame
    cases r <;> cases t <;>
      simp [Describes, ExtendedMantissa.roundedMantissa, ExtendedMantissa.accuracy,
        Accuracy.roundToNearestEven, hodd] at h ⊢ <;> linarith
  · have hcast : (n : ℚ) + 1 ≤ em.mantissa := by exact_mod_cast hmore
    exact iff_of_false (by omega) (by linarith)

/-! ## Shifting -/

/-- The exponent that a mantissa is shifted to: its own with 53 bits left of it, but no less than
that of the smallest numbers. -/
def roundingExponent (m : Nat) (e : Int) : Int :=
  max (m.log2 + e - 52) (-1074)

theorem targetExponent_eq (m : Nat) (e : Int) :
    Format.binary64.targetExponent (totalExponent m e) = roundingExponent m e := by
  have hsum : (m.log2 : Int) + 1 + e - 53 = m.log2 + e - 52 := by omega
  show max ((m.log2 : Int) + 1 + e - 53) (-1074) = _
  rw [hsum, roundingExponent]

theorem mantissa_shiftRight (em : ExtendedMantissa) (k : Nat) :
    (em >>> k).mantissa = em.mantissa / 2 ^ k := by
  induction k with
  | zero => exact (Nat.div_one _).symm
  | succ k ih =>
      show (em >>> k).mantissa / 2 = _
      rw [ih, Nat.div_div_eq_div_mul, Nat.pow_succ]

theorem mantissa_ofMantissaAndAccuracy (m : Nat) (acc : Accuracy) :
    (ExtendedMantissa.ofMantissaAndAccuracy m acc).mantissa = m := by
  rcases acc with _ | _ | _ | _ <;> rfl

theorem snd_shiftToTargetExponent (he : e ≤ roundingExponent m e) :
    (shiftToTargetExponent Format.binary64 m e acc).2 = roundingExponent m e := by
  show e + ((Format.binary64.targetExponent (totalExponent m e) - e).toNat : Int) = _
  rw [targetExponent_eq]
  omega

theorem mantissa_shiftToTargetExponent (m : Nat) (e : Int) (acc : Accuracy) :
    (shiftToTargetExponent Format.binary64 m e acc).1.mantissa
      = m / 2 ^ (roundingExponent m e - e).toNat := by
  show (ExtendedMantissa.ofMantissaAndAccuracy m acc
    >>> (Format.binary64.targetExponent (totalExponent m e) - e).toNat).mantissa = _
  rw [mantissa_shiftRight, mantissa_ofMantissaAndAccuracy, targetExponent_eq]

/-- A shifted mantissa has 53 bits at most. -/
theorem mantissa_shiftToTargetExponent_lt (m : Nat) (e : Int) (acc : Accuracy) :
    (shiftToTargetExponent Format.binary64 m e acc).1.mantissa < 2 ^ 53 := by
  rw [mantissa_shiftToTargetExponent, Nat.div_lt_iff_lt_mul (Nat.two_pow_pos _), ← Nat.pow_add]
  refine Nat.lt_of_lt_of_le Nat.lt_log2_self (Nat.pow_le_pow_right (by decide) ?_)
  rw [roundingExponent]
  omega

/-- A shifted mantissa has 53 bits, unless its number is among the smallest. -/
theorem le_mantissa_shiftToTargetExponent (he : e ≤ roundingExponent m e)
    (hnormal : -1074 < roundingExponent m e) :
    2 ^ 52 ≤ (shiftToTargetExponent Format.binary64 m e acc).1.mantissa := by
  rw [mantissa_shiftToTargetExponent, Nat.le_div_iff_mul_le (Nat.two_pow_pos _), ← Nat.pow_add]
  rw [roundingExponent] at he hnormal ⊢
  have hlog : 52 + (max (m.log2 + e - 52) (-1074) - e).toNat = m.log2 := by omega
  have hpos : m ≠ 0 := by
    rintro rfl
    rw [Nat.log2_zero] at hlog
    omega
  rw [hlog]
  exact Nat.log2_self_le hpos

/-- Shifting keeps what is described. -/
theorem Describes.shiftToTargetExponent (he : e ≤ roundingExponent m e)
    (h : Describes (.ofMantissaAndAccuracy m acc) (x / 2 ^ e)) :
    Describes (UnpackedFloat.shiftToTargetExponent Format.binary64 m e acc).1
      (x / 2 ^ roundingExponent m e) := by
  have hshift := h.shiftRight (roundingExponent m e - e).toNat
  have hexponent : e + ((roundingExponent m e - e).toNat : Int) = roundingExponent m e := by omega
  rw [div_div, ← zpow_natCast, ← two_zpow_add, hexponent, ← targetExponent_eq] at hshift
  rw [← targetExponent_eq]
  exact hshift

/-! ## Rounding -/

/-- A mantissa of 53 bits stays where it is. -/
theorem shiftToTargetExponent_of_lt (hm : m < 2 ^ 53) (he : -1074 ≤ e) :
    shiftToTargetExponent Format.binary64 m e .exact = (⟨m, false, false⟩, e) := by
  have hlog : m.log2 ≤ 52 := by
    rcases Nat.eq_zero_or_pos m with rfl | hpos
    · exact Nat.zero_le _
    · have := (Nat.log2_lt (Nat.ne_of_gt hpos)).2 hm
      omega
  have hnone : (roundingExponent m e - e).toNat = 0 := by
    rw [roundingExponent]
    omega
  rw [shiftToTargetExponent, targetExponent_eq, shiftToExponent, hnone]
  exact Prod.ext rfl (Int.add_zero e)

/-- A mantissa that rounding has carried over to a 54th bit is shifted once more. -/
theorem shiftToTargetExponent_two_pow (he : -1074 ≤ e) :
    shiftToTargetExponent Format.binary64 (2 ^ 53) e .exact = (⟨2 ^ 52, false, false⟩, e + 1) := by
  have hone : (roundingExponent (2 ^ 53) e - e).toNat = 1 := by
    rw [roundingExponent, Nat.log2_two_pow]
    omega
  rw [shiftToTargetExponent, targetExponent_eq, shiftToExponent, hone]
  rfl

/-- What a number is rounded to: its shifted and rounded mantissa, where a carry moves into the
exponent. -/
theorem roundWithAccuracy_cases (s : Sign) (acc : Accuracy) (he : e ≤ roundingExponent m e) :
    let r := (shiftToTargetExponent Format.binary64 m e acc).1.roundedMantissa
    (r = 0 ∧ roundWithAccuracy Format.binary64 s m e acc = .zero s)
      ∨ (∃ hr : 0 < r, r < 2 ^ 53
        ∧ roundWithAccuracy Format.binary64 s m e acc = .finite s r (roundingExponent m e) hr)
      ∨ (r = 2 ^ 53 ∧ roundWithAccuracy Format.binary64 s m e acc
        = .finite s (2 ^ 52) (roundingExponent m e + 1) (by decide)) := by
  intro r
  have hexponent := @snd_shiftToTargetExponent _ _ acc he
  have hle : r ≤ 2 ^ 53 :=
    (roundedMantissa_le_add_one _).trans (mantissa_shiftToTargetExponent_lt m e acc)
  have hmin : -1074 ≤ roundingExponent m e := le_max_right _ _
  have hround : roundWithAccuracy Format.binary64 s m e acc
      = let last := shiftToTargetExponent Format.binary64 r (roundingExponent m e) .exact
        if h : last.1.mantissa = 0 then .zero s
        else .finite s last.1.mantissa last.2 (Nat.pos_of_ne_zero h) := by
    rw [← hexponent]
    rfl
  rw [hround]
  rcases Nat.lt_or_ge r (2 ^ 53) with hlt | hge
  · rw [shiftToTargetExponent_of_lt hlt hmin]
    rcases Nat.eq_zero_or_pos r with hzero | hpos
    · exact .inl ⟨hzero, dif_pos hzero⟩
    · exact .inr (.inl ⟨hpos, hlt, dif_neg (Nat.ne_of_gt hpos)⟩)
  · obtain hcarry : r = 2 ^ 53 := Nat.le_antisymm hle hge
    rw [hcarry, shiftToTargetExponent_two_pow hmin]
    exact .inr (.inr ⟨rfl, rfl⟩)

/-- An unpacked float with a mantissa and an exponent of binary64, where the exponent may be too
large. -/
def Canonical : UnpackedFloat → Prop
  | .finite _ m e _ => m < 2 ^ 53 ∧ -1074 ≤ e ∧ (2 ^ 52 ≤ m ∨ e = -1074)
  | _ => True

/-- An unpacked float is finite, with an exponent up to a bound. -/
def Below (K : Int) : UnpackedFloat → Prop
  | .zero _ => True
  | .finite _ _ e _ => e ≤ K
  | _ => False

instance (K : Int) (u : UnpackedFloat) : Decidable (Below K u) :=
  match u with
  | .zero _ => isTrue trivial
  | .finite _ _ e _ => inferInstanceAs (Decidable (e ≤ K))
  | .infinity _ => isFalse id
  | .notANumber => isFalse id

/-- From here on numbers are rounded to an exponent larger than a bound: half a unit above the
largest number with that exponent. -/
def ceiling (K : Int) : ℚ :=
  (2 ^ 53 - 1 / 2) * 2 ^ K

theorem canonical_roundWithAccuracy (s : Sign) (acc : Accuracy) (he : e ≤ roundingExponent m e) :
    Canonical (roundWithAccuracy Format.binary64 s m e acc) := by
  have hmin : -1074 ≤ roundingExponent m e := le_max_right _ _
  rcases roundWithAccuracy_cases s acc he with ⟨-, h⟩ | ⟨hr, hlt, h⟩ | ⟨-, h⟩ <;> rw [h]
  · exact trivial
  · refine ⟨hlt, hmin, ?_⟩
    rcases hmin.eq_or_lt with hsmallest | hnormal
    · exact .inr hsmallest.symm
    · exact .inl ((le_mantissa_shiftToTargetExponent he hnormal).trans
        (mantissa_le_roundedMantissa _))
  · exact ⟨by decide, by omega, .inl (Nat.le_refl _)⟩

/-- The exponent of what a number is rounded to: that of the shift, or one more after a carry. -/
theorem below_roundWithAccuracy_iff_carry (s : Sign) (acc : Accuracy)
    (he : e ≤ roundingExponent m e) (hK : -1074 ≤ K) :
    Below K (roundWithAccuracy Format.binary64 s m e acc) ↔
      roundingExponent m e < K ∨ roundingExponent m e = K
        ∧ (shiftToTargetExponent Format.binary64 m e acc).1.roundedMantissa ≤ 2 ^ 53 - 1 := by
  rcases roundWithAccuracy_cases s acc he with ⟨hzero, h⟩ | ⟨hr, hlt, h⟩ | ⟨hcarry, h⟩ <;> rw [h]
  · -- a normal mantissa is not rounded to zero
    have hmin : -1074 ≤ roundingExponent m e := le_max_right _ _
    have hsmallest : ¬ -1074 < roundingExponent m e := by
      intro hnormal
      have hle := (@le_mantissa_shiftToTargetExponent _ _ acc he hnormal).trans
        (mantissa_le_roundedMantissa _)
      rw [hzero] at hle
      omega
    refine iff_of_true trivial ?_
    omega
  · show roundingExponent m e ≤ K ↔ _
    omega
  · show roundingExponent m e + 1 ≤ K ↔ _
    omega

/-- **The size of a number settles the exponent that it is rounded to.** -/
theorem below_roundWithAccuracy_iff (s : Sign) (he : e ≤ roundingExponent m e)
    (h : Describes (.ofMantissaAndAccuracy m acc) (x / 2 ^ e)) (hK : -1074 ≤ K) :
    Below K (roundWithAccuracy Format.binary64 s m e acc) ↔ x < ceiling K := by
  have hdescribes := h.shiftToTargetExponent he
  have hpos := two_zpow_pos (roundingExponent m e)
  rw [below_roundWithAccuracy_iff_carry s acc he hK]
  rcases lt_trichotomy (roundingExponent m e) K with hless | hsame | hmore
  · -- below the next exponent there is room for a carry
    have hhigh := hdescribes.lt_mantissa_add_one
    have hmantissa : ((shiftToTargetExponent Format.binary64 m e acc).1.mantissa : ℚ) + 1
        ≤ 2 ^ 53 := by
      exact_mod_cast mantissa_shiftToTargetExponent_lt m e acc
    have hstep : (2 : ℚ) ^ roundingExponent m e * 2 ≤ 2 ^ K := by
      rw [← zpow_add_one₀ (by norm_num)]
      exact two_zpow_le hless
    rw [div_lt_iff₀ hpos] at hhigh
    refine iff_of_true (.inl hless) ?_
    rw [ceiling]
    nlinarith
  · rw [hsame] at hdescribes hpos
    have hodd := hdescribes.roundedMantissa_le_iff (n := 2 ^ 53 - 1) (by decide)
    have hbound : (((2 ^ 53 - 1 : Nat) : ℚ) + 1 / 2) = 2 ^ 53 - 1 / 2 := by
      norm_num
    rw [hbound, div_lt_iff₀ hpos] at hodd
    rw [ceiling, ← hodd]
    omega
  · have hlow := hdescribes.mantissa_le
    have hmantissa : (2 : ℚ) ^ 52
        ≤ ((shiftToTargetExponent Format.binary64 m e acc).1.mantissa : ℚ) := by
      exact_mod_cast le_mantissa_shiftToTargetExponent he (by omega)
    have hstep : (2 : ℚ) ^ K * 2 ≤ 2 ^ roundingExponent m e := by
      rw [← zpow_add_one₀ (by norm_num)]
      exact two_zpow_le hmore
    have hposK := two_zpow_pos K
    rw [le_div_iff₀ hpos] at hlow
    refine iff_of_false (by omega) ?_
    rw [ceiling, not_lt]
    nlinarith

end Roaming.Binary64
