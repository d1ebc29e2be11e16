import Roaming.Proofs.Rounding

/-!
# Operations on binary64 and the size of their results

Each operation on finite operands rounds one exact number, so the size of that number settles the
exponent of the result (`below_roundWithAccuracy_iff`). This module says which number it is: for a
sum, a product, a quotient and a decimal numeral.
-/

namespace Roaming.Binary64

open Float.Model Float.Model.UnpackedFloat

variable {u v : UnpackedFloat} {m n d k : Nat} {e e' j l K K' : Int} {s s' : Sign}

/-! ## Sizes -/

/-- The size of an unpacked float without its sign. -/
def size : UnpackedFloat → ℚ
  | .finite _ m e _ => m * 2 ^ e
  | _ => 0

theorem size_finite {hm : 0 < m} : size (.finite s m e hm) = m * 2 ^ e := rfl

/-- The largest number with an exponent up to a bound. -/
def largest (K : Int) : ℚ :=
  (2 ^ 53 - 1) * 2 ^ K

theorem largest_lt_ceiling (h : K ≤ K') : largest K < ceiling K' := by
  have hpos := two_zpow_pos K
  have hle := two_zpow_le h
  rw [largest, ceiling]
  nlinarith

theorem ceiling_pos (K : Int) : 0 < ceiling K :=
  mul_pos (by norm_num) (two_zpow_pos K)

theorem ceiling_le (h : K ≤ K') : ceiling K ≤ ceiling K' :=
  mul_le_mul_of_nonneg_left (two_zpow_le h) (by norm_num)

theorem ceiling_eq (K : Int) : ceiling K = 2 ^ (K + 53) - 2 ^ (K - 1) := by
  rw [ceiling, two_zpow_add, zpow_sub_one₀ (by norm_num)]
  norm_num
  ring

theorem size_le_largest (hu : Canonical u) (h : Below K u) : size u ≤ largest K := by
  cases u with
  | finite s m e hm =>
      have hmantissa : (m : ℚ) + 1 ≤ 2 ^ 53 := by
        exact_mod_cast hu.1
      have hle : (2 : ℚ) ^ e ≤ 2 ^ K := two_zpow_le h
      exact mul_le_mul (le_sub_iff_add_le.2 hmantissa) hle (two_zpow_pos e).le (by norm_num)
  | zero s => exact mul_nonneg (by norm_num) (two_zpow_pos K).le
  | infinity s => exact h.elim
  | notANumber => exact h.elim

theorem Below.mono (h : Below K u) (hle : K ≤ K') : Below K' u := by
  cases u with
  | finite s m e hm => exact Int.le_trans h hle
  | zero s => exact trivial
  | infinity s => exact h
  | notANumber => exact h

/-! ## Rounding what is exact -/

theorem log2_shiftLeft (hm : 0 < m) (k : Nat) : (m <<< k).log2 = m.log2 + k := by
  have hne : m <<< k ≠ 0 := by
    rw [Nat.shiftLeft_eq]
    exact (Nat.mul_pos hm (Nat.two_pow_pos k)).ne'
  rw [Nat.log2_eq_iff hne, Nat.shiftLeft_eq, Nat.pow_add, Nat.add_right_comm, Nat.pow_add]
  refine ⟨Nat.mul_le_mul_right _ (Nat.log2_self_le hm.ne'), ?_⟩
  exact Nat.mul_lt_mul_of_pos_right Nat.lt_log2_self (Nat.two_pow_pos k)

/-- Bits added to a mantissa are taken from its exponent. -/
theorem shiftLeft_mul_zpow (m k : Nat) (e : Int) :
    ((m <<< k : Nat) : ℚ) * 2 ^ (e - k) = m * 2 ^ e := by
  rw [Nat.shiftLeft_eq, Nat.cast_mul, Nat.cast_pow, Nat.cast_ofNat, ← zpow_natCast, mul_assoc,
    ← two_zpow_add, add_sub_cancel]

/-- A number is the same with a smaller exponent. -/
theorem shiftLeft_mul_min (m : Nat) (h : K ≤ e) :
    ((m <<< (e - K).toNat : Nat) : ℚ) * 2 ^ K = m * 2 ^ e := by
  have hsame := shiftLeft_mul_zpow m (e - K).toNat e
  rwa [show e - ((e - K).toNat : Int) = K by omega] at hsame

theorem roundingExponent_shiftLeft (hm : 0 < m) (k : Nat) :
    roundingExponent (m <<< k) (e - k) = roundingExponent m e := by
  rw [roundingExponent, log2_shiftLeft hm, roundingExponent]
  omega

theorem describes_exact (m : Nat) (e : Int) :
    Describes (.ofMantissaAndAccuracy m .exact) (m * 2 ^ e / 2 ^ e) := by
  rw [mul_div_cancel_right₀ _ (two_zpow_pos e).ne']
  rfl

/-- Rounding adds bits to a mantissa as far as there are too few. -/
theorem round_eq (s : Sign) (m : Nat) (e : Int) :
    UnpackedFloat.round Format.binary64 s m e
      = roundWithAccuracy Format.binary64 s (m <<< (e - roundingExponent m e).toNat)
        (e - (e - roundingExponent m e).toNat) .exact := by
  rw [← targetExponent_eq]
  rfl

theorem le_roundingExponent_shiftLeft (hm : 0 < m) (e : Int) :
    e - (e - roundingExponent m e).toNat
      ≤ roundingExponent (m <<< (e - roundingExponent m e).toNat)
        (e - (e - roundingExponent m e).toNat) := by
  rw [roundingExponent_shiftLeft hm]
  omega

theorem canonical_round (s : Sign) (hm : 0 < m) (e : Int) :
    Canonical (UnpackedFloat.round Format.binary64 s m e) := by
  rw [round_eq]
  exact canonical_roundWithAccuracy s .exact (le_roundingExponent_shiftLeft hm e)

theorem below_round_iff (s : Sign) (hm : 0 < m) (e : Int) (hK : -1074 ≤ K) :
    Below K (UnpackedFloat.round Format.binary64 s m e) ↔ (m : ℚ) * 2 ^ e < ceiling K := by
  rw [round_eq, below_roundWithAccuracy_iff s (le_roundingExponent_shiftLeft hm e)
    (describes_exact _ _) hK, shiftLeft_mul_zpow]

/-- An integer other than zero is rounded by its size. -/
theorem exists_normalize_eq {m : Int} (hm : m ≠ 0) (e : Int) (zeroSign : Sign) :
    ∃ s, UnpackedFloat.normalize Format.binary64 m e zeroSign
      = UnpackedFloat.round Format.binary64 s m.natAbs e := by
  rcases lt_or_gt_of_ne hm with hneg | hpos
  · refine ⟨.negative, ?_⟩
    rw [UnpackedFloat.normalize, Int.compare_eq_lt.2 hneg, show m.natAbs = (-m).toNat by omega]
  · refine ⟨.positive, ?_⟩
    rw [UnpackedFloat.normalize, Int.compare_eq_gt.2 hpos, show m.natAbs = m.toNat by omega]

theorem canonical_normalize (m e : Int) (zeroSign : Sign) :
    Canonical (UnpackedFloat.normalize Format.binary64 m e zeroSign) := by
  by_cases hm : m = 0
  · rw [hm]
    exact trivial
  · obtain ⟨s, h⟩ := exists_normalize_eq hm e zeroSign
    rw [h]
    exact canonical_round s (Int.natAbs_pos.2 hm) e

theorem below_normalize_iff (m e : Int) (zeroSign : Sign) (hK : -1074 ≤ K) :
    Below K (UnpackedFloat.normalize Format.binary64 m e zeroSign)
      ↔ (m.natAbs : ℚ) * 2 ^ e < ceiling K := by
  by_cases hm : m = 0
  · rw [hm, Int.natAbs_zero, Nat.cast_zero, zero_mul]
    exact iff_of_true trivial (ceiling_pos K)
  · obtain ⟨s, h⟩ := exists_normalize_eq hm e zeroSign
    rw [h, below_round_iff s (Int.natAbs_pos.2 hm) e hK]

/-! ## Sums -/

theorem natAbs_apply (s : Sign) (m : Int) : (s.apply m).natAbs = m.natAbs := by
  cases s
  · exact Int.natAbs_neg m
  · rfl

theorem add_finite {hm : 0 < m} {hn : 0 < n} :
    add Format.binary64 (.finite s m e hm) (.finite s' n e' hn)
      = UnpackedFloat.normalize Format.binary64
        (s.apply (m <<< (e - min e e').toNat : Nat) + s'.apply (n <<< (e' - min e e').toNat : Nat))
        (min e e') .positive := rfl

theorem canonical_add (hu : Canonical u) (hv : Canonical v) :
    Canonical (add Format.binary64 u v) := by
  cases u <;> cases v
  case finite.finite s m e hm s' n e' hn =>
    rw [add_finite]
    exact canonical_normalize _ _ _
  case zero.finite => exact hv
  case finite.zero => exact hu
  case infinity.infinity s s' => cases s <;> cases s' <;> exact trivial
  case zero.zero s s' => cases s <;> cases s' <;> exact trivial
  all_goals exact trivial

/-- The sum of two numbers has an exponent of one more at most. -/
theorem below_add (hu : Canonical u) (hv : Canonical v) (hu' : Below K u) (hv' : Below K v)
    (hK : -1074 ≤ K) : Below (K + 1) (add Format.binary64 u v) := by
  have hsum : size u + size v < ceiling (K + 1) := by
    have hule := size_le_largest hu hu'
    have hvle := size_le_largest hv hv'
    have hdouble : largest (K + 1) = largest K + largest K := by
      rw [largest, two_zpow_add, zpow_one, largest]
      ring
    exact (hdouble ▸ add_le_add hule hvle).trans_lt (largest_lt_ceiling (Int.le_refl _))
  cases u with
  | infinity s => exact hu'.elim
  | notANumber => exact hu'.elim
  | zero s =>
      cases v with
      | infinity s' => exact hv'.elim
      | notANumber => exact hv'.elim
      | zero s' => cases s <;> cases s' <;> exact trivial
      | finite s' n e' hn => exact hv'.mono (by omega)
  | finite s m e hm =>
      cases v with
      | infinity s' => exact hv'.elim
      | notANumber => exact hv'.elim
      | zero s' => exact hu'.mono (by omega)
      | finite s' n e' hn =>
          rw [add_finite, below_normalize_iff _ _ _ (by omega)]
          have hmantissa := Int.natAbs_add_le (s.apply (m <<< (e - min e e').toNat : Nat))
            (s'.apply (n <<< (e' - min e e').toNat : Nat))
          rw [natAbs_apply, natAbs_apply, Int.natAbs_natCast, Int.natAbs_natCast] at hmantissa
          refine lt_of_le_of_lt ?_ hsum
          rw [size_finite, size_finite, ← shiftLeft_mul_min m (Int.min_le_left e e'),
            ← shiftLeft_mul_min n (Int.min_le_right e e'), ← add_mul]
          exact mul_le_mul_of_nonneg_right (by exact_mod_cast hmantissa) (two_zpow_pos _).le

/-! ## Products -/

/-- An unpacked float is normal, with an exponent within bounds. -/
def Between (j l : Int) : UnpackedFloat → Prop
  | .finite _ m e _ => 2 ^ 52 ≤ m ∧ m < 2 ^ 53 ∧ j ≤ e ∧ e ≤ l
  | _ => False

instance (j l : Int) (u : UnpackedFloat) : Decidable (Between j l u) :=
  match u with
  | .finite _ m e _ => inferInstanceAs (Decidable (2 ^ 52 ≤ m ∧ m < 2 ^ 53 ∧ j ≤ e ∧ e ≤ l))
  | .zero _ => isFalse id
  | .infinity _ => isFalse id
  | .notANumber => isFalse id

theorem mul_finite {hm : 0 < m} {hn : 0 < n} :
    mul Format.binary64 (.finite s m e hm) (.finite s' n e' hn)
      = roundWithAccuracy Format.binary64 (s * s') (m * n) (e + e') .exact := rfl

theorem mul_swap (u v : UnpackedFloat) : mul Format.binary64 u v = mul Format.binary64 v u := by
  have hsign : ∀ s s' : Sign, s * s' = s' * s := by
    intro s s'
    cases s <;> cases s' <;> rfl
  cases u <;> cases v
  case finite.finite s m e hm s' n e' hn =>
    rw [mul_finite, mul_finite, hsign, Nat.mul_comm, Int.add_comm]
  case notANumber.notANumber => rfl
  all_goals first
    | rfl
    | exact congrArg UnpackedFloat.zero (hsign _ _)
    | exact congrArg UnpackedFloat.infinity (hsign _ _)

/-- A product of enough bits is rounded by its size. -/
theorem le_roundingExponent_of_two_pow_le (h : 2 ^ 52 ≤ m) (e : Int) :
    e ≤ roundingExponent m e := by
  have hlog : 52 ≤ m.log2 := (Nat.le_log2 (by omega)).2 h
  rw [roundingExponent]
  omega

theorem below_mul_finite_iff (s s' : Sign) (hm : 0 < m) (hn : 0 < n) (h : 2 ^ 52 ≤ m * n)
    (hK : -1074 ≤ K) :
    Below K (mul Format.binary64 (.finite s m e hm) (.finite s' n e' hn))
      ↔ (m * 2 ^ e * (n * 2 ^ e') : ℚ) < ceiling K := by
  have hsize : (m * 2 ^ e * (n * 2 ^ e') : ℚ) = (m * n : Nat) * 2 ^ (e + e') := by
    rw [two_zpow_add, Nat.cast_mul]
    ring
  rw [mul_finite, hsize, below_roundWithAccuracy_iff _ (le_roundingExponent_of_two_pow_le h _)
    (describes_exact _ _) hK]

theorem canonical_mul (hv : Between j l v) : Canonical (mul Format.binary64 u v) := by
  cases v with
  | finite s' n e' hn =>
      cases u with
      | finite s m e hm =>
          rw [mul_finite]
          refine canonical_roundWithAccuracy _ _ (le_roundingExponent_of_two_pow_le ?_ _)
          exact hv.1.trans (Nat.le_mul_of_pos_left n hm)
      | zero s | infinity s | notANumber => exact trivial
  | zero s | infinity s | notANumber => exact hv.elim

/-- The product of a number and a normal one. -/
theorem below_mul (hu : Canonical u) (hu' : Below K u) (hv : Between j l v) (hK' : -1074 ≤ K')
    (h : K + l + 53 ≤ K') : Below K' (mul Format.binary64 u v) := by
  cases v with
  | finite s' n e' hn =>
      cases u with
      | finite s m e hm =>
          rw [below_mul_finite_iff s s' hm hn (hv.1.trans (Nat.le_mul_of_pos_left n hm)) hK']
          have hn53 : (n : ℚ) ≤ 2 ^ 53 := by
            exact_mod_cast hv.2.1.le
          have hpow : (2 : ℚ) ^ e' ≤ 2 ^ l := two_zpow_le hv.2.2.2
          have hfactor : (n * 2 ^ e' : ℚ) ≤ 2 ^ 53 * 2 ^ l :=
            mul_le_mul hn53 hpow (two_zpow_pos e').le (by norm_num)
          calc (m * 2 ^ e * (n * 2 ^ e') : ℚ)
              ≤ largest K * (2 ^ 53 * 2 ^ l) := by
                refine mul_le_mul (size_le_largest hu hu') hfactor ?_ ?_
                · exact mul_nonneg (Nat.cast_nonneg n) (two_zpow_pos e').le
                · exact mul_nonneg (by norm_num) (two_zpow_pos K).le
            _ = largest (K + l + 53) := by
                rw [largest, largest, two_zpow_add, two_zpow_add]
                norm_num
                ring
            _ < ceiling K' := largest_lt_ceiling h
      | zero s => exact trivial
      | infinity s => exact hu'.elim
      | notANumber => exact hu'.elim
  | zero s | infinity s | notANumber => exact hv.elim

/-! ## Quotients -/

/-- The quotient and the remainder of a division describe it. -/
theorem describes_div (n : Nat) (hd : 0 < d) :
    Describes (.ofMantissaAndAccuracy (n / d) (accuracyOfFraction (n % d) d)) (n / d) := by
  have hd' : (0 : ℚ) < d := by
    exact_mod_cast hd
  have hrest : n % d < d := Nat.mod_lt n hd
  have hsplit : (n / d : ℚ) = (n / d : Nat) + (n % d : Nat) / d := by
    have hnat : (n : ℚ) = d * (n / d : Nat) + (n % d : Nat) := by
      exact_mod_cast (Nat.div_add_mod n d).symm
    rw [eq_comm, ← mul_right_inj' hd'.ne', mul_add, mul_div_cancel₀ _ hd'.ne', ← hnat,
      mul_div_cancel₀ _ hd'.ne']
  rw [hsplit, accuracyOfFraction]
  generalize n / d = q
  generalize n % d = r at hrest
  have hwhole : (r / d : ℚ) < 1 := by
    rw [div_lt_one hd']
    exact_mod_cast hrest
  by_cases hr : r = 0
  · rw [if_pos hr, hr, Nat.cast_zero, zero_div, add_zero]
    rfl
  · have hpos : (0 : ℚ) < r / d := div_pos (by exact_mod_cast Nat.pos_of_ne_zero hr) hd'
    rw [if_neg hr]
    rcases lt_trichotomy (2 * r) d with hlow | hmiddle | hhigh
    · have hhalf : (r / d : ℚ) < 1 / 2 := by
        rw [div_lt_div_iff₀ hd' (by norm_num)]
        exact_mod_cast (by omega : r * 2 < 1 * d)
      rw [Nat.compare_eq_lt.2 hlow]
      exact ⟨by linarith, by linarith⟩
    · have hhalf : (r / d : ℚ) = 1 / 2 := by
        rw [div_eq_div_iff hd'.ne' (by norm_num)]
        exact_mod_cast (by omega : r * 2 = 1 * d)
      rw [Nat.compare_eq_eq.2 hmiddle, hhalf]
      rfl
    · have hhalf : (1 / 2 : ℚ) < r / d := by
        rw [div_lt_div_iff₀ (by norm_num) hd']
        exact_mod_cast (by omega : 1 * d < r * 2)
      rw [Nat.compare_eq_gt.2 hhigh]
      exact ⟨by linarith, by linarith⟩

/-- The exponent of a quotient, small enough for it to have all its bits. -/
def quotientExponent (m : Nat) (e : Int) (n : Nat) (e' : Int) : Int :=
  min (e - e') (max (m.log2 + e - (n.log2 + e') - 53) (-1074))

theorem divCore_eq (m : Nat) (e : Int) (n : Nat) (e' : Int) :
    let k := (e - e' - quotientExponent m e n e').toNat
    divCore Format.binary64 m e n e'
      = (m <<< k / n, quotientExponent m e n e', accuracyOfFraction (m <<< k % n) n) := by
  intro k
  have htarget : min (e - e') (Format.binary64.targetExponent
      (totalExponent m e - totalExponent n e')) = quotientExponent m e n e' := by
    have hsum : (m.log2 : Int) + 1 + e - (n.log2 + 1 + e') - 53
        = m.log2 + e - (n.log2 + e') - 53 := by omega
    show min (e - e') (max ((m.log2 : Int) + 1 + e - (n.log2 + 1 + e') - 53) (-1074)) = _
    rw [hsum, quotientExponent]
  rw [divCore, htarget]

theorem div_finite {hm : 0 < m} {hn : 0 < n} :
    let k := (e - e' - quotientExponent m e n e').toNat
    div Format.binary64 (.finite s m e hm) (.finite s' n e' hn)
      = roundWithAccuracy Format.binary64 (s / s') (m <<< k / n) (quotientExponent m e n e')
        (accuracyOfFraction (m <<< k % n) n) := by
  intro k
  show (match divCore Format.binary64 m e n e' with
    | (q, f, acc) => roundWithAccuracy Format.binary64 (s / s') q f acc) = _
  rw [divCore_eq]

/-- A quotient has all its bits. -/
theorem le_roundingExponent_div (hm : 0 < m) (hn : 0 < n) (e e' : Int) :
    let k := (e - e' - quotientExponent m e n e').toNat
    quotientExponent m e n e' ≤ roundingExponent (m <<< k / n) (quotientExponent m e n e') := by
  intro k
  by_cases hsmallest : quotientExponent m e n e' ≤ -1074
  · exact hsmallest.trans (le_max_right _ _)
  · refine le_roundingExponent_of_two_pow_le ?_ _
    have hbits : 53 + n.log2 ≤ m.log2 + k := by
      have hk : k = (e - e' - quotientExponent m e n e').toNat := rfl
      rw [quotientExponent] at hsmallest hk
      omega
    rw [Nat.le_div_iff_mul_le hn, Nat.shiftLeft_eq]
    calc 2 ^ 52 * n
        ≤ 2 ^ 52 * 2 ^ (n.log2 + 1) := Nat.mul_le_mul_left _ Nat.lt_log2_self.le
      _ = 2 ^ (53 + n.log2) := by rw [← Nat.pow_add]; congr 1; omega
      _ ≤ 2 ^ (m.log2 + k) := Nat.pow_le_pow_right (by decide) hbits
      _ = 2 ^ m.log2 * 2 ^ k := Nat.pow_add _ _ _
      _ ≤ m * 2 ^ k := Nat.mul_le_mul_right _ (Nat.log2_self_le hm.ne')

theorem canonical_div_finite (s s' : Sign) (hm : 0 < m) (hn : 0 < n) (e e' : Int) :
    Canonical (UnpackedFloat.div Format.binary64 (.finite s m e hm) (.finite s' n e' hn)) := by
  rw [div_finite]
  exact canonical_roundWithAccuracy _ _ (le_roundingExponent_div hm hn e e')

/-- A quotient is rounded by its size. -/
theorem below_div_finite_iff (s s' : Sign) (hm : 0 < m) (hn : 0 < n) (e e' : Int)
    (hK : -1074 ≤ K) :
    Below K (UnpackedFloat.div Format.binary64 (.finite s m e hm) (.finite s' n e' hn))
      ↔ (m * 2 ^ e / (n * 2 ^ e') : ℚ) < ceiling K := by
  have hle : quotientExponent m e n e' ≤ e - e' := min_le_left _ _
  have hdescribes := describes_div (m <<< (e - e' - quotientExponent m e n e').toNat) hn
  have hsize : ((m <<< (e - e' - quotientExponent m e n e').toNat : Nat) / n : ℚ)
      = m * 2 ^ e / (n * 2 ^ e') / 2 ^ quotientExponent m e n e' := by
    have hshift := shiftLeft_mul_min m hle
    have hpos := two_zpow_pos (quotientExponent m e n e')
    rw [eq_div_iff hpos.ne', div_mul_eq_mul_div, hshift, zpow_sub₀ (by norm_num), mul_div_assoc',
      div_div, mul_comm (n : ℚ)]
  rw [hsize] at hdescribes
  rw [div_finite, below_roundWithAccuracy_iff _ (le_roundingExponent_div hm hn e e') hdescribes hK]

theorem canonical_div (hv : Between j l v) :
    Canonical (UnpackedFloat.div Format.binary64 u v) := by
  cases v with
  | finite s' n e' hn =>
      cases u with
      | finite s m e hm => exact canonical_div_finite s s' hm hn e e'
      | zero s | infinity s | notANumber => exact trivial
  | zero s | infinity s | notANumber => exact hv.elim

/-- The quotient of a number by a normal one. -/
theorem below_div (hu : Canonical u) (hu' : Below K u) (hv : Between j l v) (hK' : -1074 ≤ K')
    (h : K - j - 52 ≤ K') : Below K' (UnpackedFloat.div Format.binary64 u v) := by
  cases v with
  | finite s' n e' hn =>
      cases u with
      | finite s m e hm =>
          rw [below_div_finite_iff s s' hm hn e e' hK']
          have hn52 : (2 : ℚ) ^ 52 ≤ n := by
            exact_mod_cast hv.1
          have hpow : (2 : ℚ) ^ j ≤ 2 ^ e' := two_zpow_le hv.2.2.1
          have hdivisor : (2 : ℚ) ^ 52 * 2 ^ j ≤ n * 2 ^ e' :=
            mul_le_mul hn52 hpow (two_zpow_pos j).le (Nat.cast_nonneg n)
          have hpos : (0 : ℚ) < 2 ^ 52 * 2 ^ j := mul_pos (by norm_num) (two_zpow_pos j)
          calc (m * 2 ^ e / (n * 2 ^ e') : ℚ)
              ≤ largest K / (2 ^ 52 * 2 ^ j) := by
                refine div_le_div₀ ?_ (size_le_largest hu hu') hpos hdivisor
                exact mul_nonneg (by norm_num) (two_zpow_pos K).le
            _ = largest (K - j - 52) := by
                rw [largest, largest, zpow_sub₀ (by norm_num), zpow_sub₀ (by norm_num), div_div,
                  mul_div_assoc, mul_comm ((2 : ℚ) ^ 52)]
                norm_cast
            _ < ceiling K' := largest_lt_ceiling h
      | zero s => exact trivial
      | infinity s => exact hu'.elim
      | notANumber => exact hu'.elim
  | zero s | infinity s | notANumber => exact hv.elim

/-! ## Decimal numerals -/

/-- With a power of ten in sight, a numeral is a product or a quotient. -/
theorem ofScientific_cases (hm : 0 < m) (hlarge : e ≤ 2 ^ 11) (hsmall : -(2 ^ 11 + m.log2) ≤ e) :
    (∃ p hm' hp, e = (p : Nat)
        ∧ UnpackedFloat.ofScientific Format.binary64 m e
          = mul Format.binary64 (.finite .positive (m <<< 53) (0 - (53 : Nat)) hm')
            (.finite .positive (10 ^ p) 0 hp))
      ∨ ∃ p hp, e = -(p : Nat)
        ∧ UnpackedFloat.ofScientific Format.binary64 m e
          = UnpackedFloat.div Format.binary64 (.finite .positive m 0 hm)
            (.finite .positive (10 ^ p) 0 hp) := by
  have hshifted : 0 < m <<< 53 := by
    rw [Nat.shiftLeft_eq]
    exact Nat.mul_pos hm (Nat.two_pow_pos 53)
  have hten : ∀ p, 0 < 10 ^ p := fun p => Nat.pow_pos (by decide)
  rw [UnpackedFloat.ofScientific, dif_neg hm.ne', if_neg (Int.not_lt.2 hlarge),
    if_neg (Int.not_lt.2 hsmall)]
  by_cases he : 0 ≤ e
  · rw [if_pos he]
    exact .inl ⟨e.toNat, hshifted, hten _, by omega, rfl⟩
  · rw [if_neg he]
    exact .inr ⟨(-e).toNat, hten _, by omega, rfl⟩

theorem two_pow_le_shiftLeft_mul (hm : 0 < m) (hn : 0 < n) : 2 ^ 52 ≤ m <<< 53 * n := by
  rw [Nat.shiftLeft_eq]
  nlinarith

theorem canonical_ofScientific (hm : 0 < m) (hlarge : e ≤ 2 ^ 11)
    (hsmall : -(2 ^ 11 + m.log2) ≤ e) :
    Canonical (UnpackedFloat.ofScientific Format.binary64 m e) := by
  rcases ofScientific_cases hm hlarge hsmall with ⟨p, hm', hp, -, h⟩ | ⟨p, hp, -, h⟩ <;> rw [h]
  · rw [mul_finite]
    exact canonical_roundWithAccuracy _ _
      (le_roundingExponent_of_two_pow_le (two_pow_le_shiftLeft_mul hm hp) _)
  · exact canonical_div_finite _ _ _ _ _ _

/-- **A decimal numeral is rounded by its size.** -/
theorem below_ofScientific_iff (hm : 0 < m) (hlarge : e ≤ 2 ^ 11)
    (hsmall : -(2 ^ 11 + m.log2) ≤ e) (hK : -1074 ≤ K) :
    Below K (UnpackedFloat.ofScientific Format.binary64 m e) ↔ (m * 10 ^ e : ℚ) < ceiling K := by
  rcases ofScientific_cases hm hlarge hsmall with ⟨p, hm', hp, rfl, h⟩ | ⟨p, hp, rfl, h⟩ <;> rw [h]
  · rw [below_mul_finite_iff _ _ hm' hp (two_pow_le_shiftLeft_mul hm hp) hK, shiftLeft_mul_zpow]
    simp
  · rw [below_div_finite_iff _ _ hm hp 0 0 hK, zpow_neg, ← div_eq_mul_inv]
    simp

end Roaming.Binary64
