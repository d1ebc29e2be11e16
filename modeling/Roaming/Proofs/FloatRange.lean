import Roaming.Proofs.Binary64

/-!
# The range of floats

A float is within a bound if its exponent is, and it is finite if it is within the largest exponent
(`isFinite_iff_within`). Packing keeps the exponent of a result that was rounded to one, and takes
what is too large to infinity (`within_pack_iff`). So the laws of the operations carry over to
floats: what bounds the operands bounds the result, and a result is finite only if its operands are.
-/

namespace Roaming.Binary64

open Float.Model Float.Model.UnpackedFloat

variable {u v : UnpackedFloat} {j l K K' : Int} {x y : Float} {m p : Nat}

/-! ## Packing -/

/-- The exponent bits of a packed float. -/
def exponentBits (b : BitVec Format.binary64.numBits) : Nat :=
  (@unpackExponent Format.binary64 b).toNat

theorem exponentBits_lt (b : BitVec Format.binary64.numBits) : exponentBits b < 2 ^ 11 :=
  (unpackExponent b).isLt

/-- What exponent bits are unpacked to. -/
inductive Unpacked (bits : Nat) : UnpackedFloat → Prop where
  | infinity {s : Sign} (hbits : bits = 2047) : Unpacked bits (.infinity s)
  | notANumber (hbits : bits = 2047) : Unpacked bits .notANumber
  | zero {s : Sign} (hbits : bits = 0) : Unpacked bits (.zero s)
  | subnormal {s : Sign} {m : Nat} {hm : 0 < m} (hbits : bits = 0) (hless : m < 2 ^ 52) :
      Unpacked bits (.finite s m (-1074) hm)
  | normal {s : Sign} {m : Nat} {e : Int} {hm : 0 < m} (hpos : 0 < bits) (hlt : bits < 2047)
      (he : e = bits - 1075) (hle : 2 ^ 52 ≤ m) (hless : m < 2 ^ 53) :
      Unpacked bits (.finite s m e hm)

theorem unpacked_unpack (b : BitVec Format.binary64.numBits) :
    Unpacked (exponentBits b) (UnpackedFloat.unpack Format.binary64 b) := by
  have hones : unpackExponent b = -1#_ ↔ exponentBits b = 2047 := by
    rw [exponentBits, ← BitVec.toNat_inj]
    rfl
  have hzeros : unpackExponent b = 0#_ ↔ exponentBits b = 0 := by
    rw [exponentBits, ← BitVec.toNat_inj]
    rfl
  have hlt := exponentBits_lt b
  have hmantissa : (unpackMantissa b).toNat < 2 ^ 52 := (@unpackMantissa Format.binary64 b).isLt
  by_cases hmax : unpackExponent b = -1#_
  · rw [show UnpackedFloat.unpack Format.binary64 b = _ from if_pos hmax]
    split
    · exact .infinity (hones.1 hmax)
    · exact .notANumber (hones.1 hmax)
  · by_cases hmin : unpackExponent b = 0#_
    · by_cases hnone : unpackMantissa b = 0#_
      · rw [show UnpackedFloat.unpack Format.binary64 b = _ from
          (if_neg hmax).trans ((if_pos hmin).trans (dif_pos hnone))]
        exact .zero (hzeros.1 hmin)
      · rw [show UnpackedFloat.unpack Format.binary64 b = _ from
          (if_neg hmax).trans ((if_pos hmin).trans (dif_neg hnone)), hmin]
        exact .subnormal (hzeros.1 hmin) hmantissa
    · rw [show UnpackedFloat.unpack Format.binary64 b = _ from
        (if_neg hmax).trans (if_neg hmin)]
      rw [hones] at hmax
      rw [hzeros] at hmin
      have happend : (1#1 ++ unpackMantissa b).toNat = 2 ^ 52 + (unpackMantissa b).toNat := by
        rw [BitVec.toNat_append, ← Nat.shiftLeft_add_eq_or_of_lt hmantissa]
        rfl
      refine .normal (by omega) (by omega) rfl ?_ ?_
      · rw [happend]
        omega
      · rw [happend]
        omega

theorem canonical_unpack (b : BitVec Format.binary64.numBits) :
    Canonical (UnpackedFloat.unpack Format.binary64 b) := by
  have hunpacked := unpacked_unpack b
  generalize UnpackedFloat.unpack Format.binary64 b = u at hunpacked
  cases hunpacked with
  | infinity | notANumber | zero => exact trivial
  | subnormal _ hless => exact ⟨by omega, Int.le_refl _, .inr rfl⟩
  | normal hpos hlt he hle hless => exact ⟨hless, by omega, .inl hle⟩

theorem below_unpack_iff (b : BitVec Format.binary64.numBits) (hK : -1074 ≤ K) (hK' : K ≤ 971) :
    Below K (UnpackedFloat.unpack Format.binary64 b) ↔ (exponentBits b : Int) ≤ K + 1075 := by
  have hunpacked := unpacked_unpack b
  generalize UnpackedFloat.unpack Format.binary64 b = u at hunpacked
  cases hunpacked with
  | infinity hbits | notANumber hbits => exact iff_of_false id (by omega)
  | zero hbits => exact iff_of_true trivial (by omega)
  | subnormal hbits => exact iff_of_true hK (by omega)
  | normal hpos hlt he =>
      show _ ≤ K ↔ _
      omega

theorem isFinite_unpack_iff (b : BitVec Format.binary64.numBits) :
    (UnpackedFloat.unpack Format.binary64 b).isFinite = true
      ↔ Below 971 (UnpackedFloat.unpack Format.binary64 b) := by
  have hunpacked := unpacked_unpack b
  generalize UnpackedFloat.unpack Format.binary64 b = u at hunpacked
  cases hunpacked with
  | infinity | notANumber => exact iff_of_false Bool.false_ne_true id
  | zero => exact iff_of_true rfl trivial
  | subnormal =>
      refine iff_of_true rfl ?_
      show (-1074 : Int) ≤ 971
      omega
  | normal hpos hlt he =>
      refine iff_of_true rfl ?_
      show _ ≤ (971 : Int)
      omega

theorem exponentBits_packComponents (s : Sign) (e : BitVec Format.binary64.exponentBits)
    (m : BitVec Format.binary64.mantissaBitsWithoutImplicit) :
    exponentBits (packComponents Format.binary64 s e m) = e.toNat := by
  rw [exponentBits, unpackExponent_packComponents]

/-- The exponent bits of a packed number: all ones for one that is too large, and none for one
without its highest bit. -/
theorem exponentBits_pack_finite (s : Sign) (e : Int) (hm : 0 < m) :
    exponentBits (UnpackedFloat.pack Format.binary64 (.finite s m e hm))
      = if 2 ^ 11 ≤ (e + 1075).toNat + 1 then 2047
        else if m.log2 + 1 = 53 then (e + 1075).toNat else 0 := by
  have hbiased : e + 1023 + 52 = e + 1075 := by omega
  show exponentBits (if 2 ^ 11 ≤ (e + 1023 + 52).toNat + 1 then packedInfinity Format.binary64 s
    else if m.log2 + 1 = 53
      then packComponents Format.binary64 s (BitVec.ofNat 11 (e + 1023 + 52).toNat) _
      else packComponents Format.binary64 s 0#11 _) = _
  rw [hbiased]
  by_cases hoverflow : 2 ^ 11 ≤ (e + 1075).toNat + 1
  · rw [if_pos hoverflow, if_pos hoverflow]
    exact exponentBits_packComponents _ _ _
  · rw [if_neg hoverflow, if_neg hoverflow]
    by_cases hbits : m.log2 + 1 = 53
    · rw [if_pos hbits, if_pos hbits, exponentBits_packComponents]
      exact Nat.mod_eq_of_lt (by omega)
    · rw [if_neg hbits, if_neg hbits]
      exact exponentBits_packComponents _ _ _

/-- Packing keeps an exponent that is small enough. -/
theorem exponentBits_pack_le_iff (hu : Canonical u) (hK : -1074 ≤ K) (hK' : K ≤ 971) :
    (exponentBits (UnpackedFloat.pack Format.binary64 u) : Int) ≤ K + 1075 ↔ Below K u := by
  cases u with
  | notANumber =>
      have hones : exponentBits (UnpackedFloat.pack Format.binary64 .notANumber) = 2047 :=
        exponentBits_packComponents _ _ _
      exact iff_of_false (by omega) id
  | infinity s =>
      have hones : exponentBits (UnpackedFloat.pack Format.binary64 (.infinity s)) = 2047 :=
        exponentBits_packComponents _ _ _
      exact iff_of_false (by omega) id
  | zero s =>
      have hzeros : exponentBits (UnpackedFloat.pack Format.binary64 (.zero s)) = 0 :=
        exponentBits_packComponents _ _ _
      exact iff_of_true (by omega) trivial
  | finite s m e hm =>
      obtain ⟨hlt, hmin, hnormal⟩ := hu
      rw [exponentBits_pack_finite]
      show _ ↔ e ≤ K
      by_cases hoverflow : 2 ^ 11 ≤ (e + 1075).toNat + 1
      · rw [if_pos hoverflow]
        exact iff_of_false (by omega) (by omega)
      · rw [if_neg hoverflow]
        by_cases hbits : m.log2 + 1 = 53
        · rw [if_pos hbits]
          omega
        · -- without its highest bit a mantissa has the least exponent
          have hleast : e = -1074 := by
            refine hnormal.resolve_left fun hle => hbits ?_
            rw [(Nat.log2_eq_iff hm.ne').2 ⟨hle, hlt⟩]
          rw [if_neg hbits]
          exact iff_of_true (by omega) (by omega)

/-! ## Floats -/

/-- A float is finite, with an exponent up to a bound. -/
def Within (K : Int) (x : Float) : Prop :=
  Below K x.toModel.unpack

instance (K : Int) (x : Float) : Decidable (Within K x) :=
  inferInstanceAs (Decidable (Below K _))

theorem isFinite_iff_within : x.isFinite = true ↔ Within 971 x :=
  isFinite_unpack_iff _

theorem Within.mono (h : Within K x) (hle : K ≤ K') : Within K' x :=
  Below.mono h hle

theorem Within.isFinite (h : Within K x) (hK : K ≤ 971) : x.isFinite = true :=
  isFinite_iff_within.2 (h.mono hK)

theorem canonical_toModel (x : Float) : Canonical x.toModel.unpack :=
  canonical_unpack _

/-- **Packing keeps what is small enough, and no more.** -/
theorem within_pack_iff (hu : Canonical u) (hK : -1074 ≤ K) (hK' : K ≤ 971) :
    Within K (.ofModel (.pack u)) ↔ Below K u := by
  show Below K (UnpackedFloat.unpack Format.binary64 (UnpackedFloat.pack Format.binary64 u)) ↔ _
  rw [below_unpack_iff _ hK hK', exponentBits_pack_le_iff hu hK hK']

theorem Within.add (hx : Within K x) (hy : Within K y) (hK : -1074 ≤ K) (hK' : K < 971) :
    Within (K + 1) (x + y) := by
  refine (within_pack_iff (canonical_add (canonical_toModel x) (canonical_toModel y)) ?_ ?_).2 ?_
  · omega
  · omega
  · exact below_add (canonical_toModel x) (canonical_toModel y) hx hy hK

theorem Within.mul (hx : Within K x) (hy : Between j l y.toModel.unpack) (hK : -1074 ≤ K')
    (hK' : K' ≤ 971) (h : K + l + 53 ≤ K') : Within K' (x * y) :=
  (within_pack_iff (canonical_mul hy) hK hK').2 (below_mul (canonical_toModel x) hx hy hK h)

theorem Within.mul_left (hx : Within K x) (hy : Between j l y.toModel.unpack) (hK : -1074 ≤ K')
    (hK' : K' ≤ 971) (h : K + l + 53 ≤ K') : Within K' (y * x) := by
  have hcomm : y * x = x * y := congrArg (fun u => Float.ofModel (.pack u)) (mul_swap _ _)
  rw [hcomm]
  exact hx.mul hy hK hK' h

theorem Within.div (hx : Within K x) (hy : Between j l y.toModel.unpack) (hK : -1074 ≤ K')
    (hK' : K' ≤ 971) (h : K - j - 52 ≤ K') : Within K' (x / y) :=
  (within_pack_iff (canonical_div hy) hK hK').2 (below_div (canonical_toModel x) hx hy hK h)

theorem canonical_neg (hu : Canonical u) : Canonical u.neg := by
  cases u <;> exact hu

theorem below_neg_iff : Below K u.neg ↔ Below K u := by
  cases u <;> exact Iff.rfl

theorem within_neg_iff (hK : -1074 ≤ K) (hK' : K ≤ 971) : Within K (-x) ↔ Within K x :=
  (within_pack_iff (canonical_neg (canonical_toModel x)) hK hK').trans below_neg_iff

/-! ## Operands of finite results -/

theorem Below.isFinite (h : Below K u) : u.isFinite = true := by
  cases u with
  | zero | finite => rfl
  | infinity | notANumber => exact h.elim

theorem isFinite_of_isFinite_add (h : (add Format.binary64 u v).isFinite = true) :
    u.isFinite = true ∧ v.isFinite = true := by
  cases u <;> cases v
  case infinity.infinity s s' => cases s <;> cases s' <;> exact nomatch h
  case zero.zero => exact ⟨rfl, rfl⟩
  case zero.finite => exact ⟨rfl, rfl⟩
  case finite.zero => exact ⟨rfl, rfl⟩
  case finite.finite => exact ⟨rfl, rfl⟩
  all_goals exact nomatch h

theorem isFinite_of_isFinite_div (hv : Between j l v)
    (h : (UnpackedFloat.div Format.binary64 u v).isFinite = true) : u.isFinite = true := by
  cases v with
  | finite s' n e' hn =>
      cases u with
      | zero | finite => rfl
      | infinity | notANumber => exact nomatch h
  | zero | infinity | notANumber => exact hv.elim

/-- A sum is finite only if both of its operands are. -/
theorem isFinite_of_add (h : (x + y).isFinite = true) : x.isFinite = true ∧ y.isFinite = true := by
  have hsum := (within_pack_iff (canonical_add (canonical_toModel x) (canonical_toModel y))
    (by omega) (Int.le_refl 971)).1 (isFinite_iff_within.1 h)
  exact isFinite_of_isFinite_add hsum.isFinite

/-- A quotient by a normal number is finite only if its dividend is. -/
theorem isFinite_of_div (hy : Between j l y.toModel.unpack) (h : (x / y).isFinite = true) :
    x.isFinite = true := by
  have hquotient := (within_pack_iff (canonical_div hy) (by omega) (Int.le_refl 971)).1
    (isFinite_iff_within.1 h)
  exact isFinite_of_isFinite_div hy hquotient.isFinite

/-! ## Numerals -/

theorem within_ofNat_of_lt (hm : m < 2 ^ 53) : Within 0 (.ofModel (.ofNat m)) := by
  refine (within_pack_iff (canonical_normalize _ _ _) (by omega) (by omega)).2 ?_
  refine (below_normalize_iff _ _ _ (by omega)).2 ?_
  have hcast : ((m : Int).natAbs : ℚ) + 1 ≤ 2 ^ 53 := by
    exact_mod_cast hm
  rw [ceiling, zpow_zero, mul_one, mul_one]
  linarith

theorem between_powersOfTen : ∀ i : Fin 23,
    Between (-52) 21 (Float.exactlyRepresentablePowersOfTen[i]).toModel.unpack := by
  decide +kernel

theorem between_two : Between (-51) (-51) (2.0 : Float).toModel.unpack := by
  decide +kernel

theorem between_thousand : Between (-43) (-43) (1000.0 : Float).toModel.unpack := by
  decide +kernel

/-- A small numeral is a product or a quotient of two numbers that are exact. -/
theorem within_ofScientific_of_small {e : Int} (hm : m < 2 ^ 53) (he : e.natAbs ≤ 22) (hK : 128 ≤ K)
    (hK' : K ≤ 971) : Within K (Float.ofScientific m (e < 0) e.natAbs) := by
  have hnumeral : Within 0 m.toUInt64.toFloat := by
    refine @within_ofNat_of_lt m.toUInt64.toNat ?_
    rw [UInt64.toNat_ofNat', Nat.mod_eq_of_lt (by omega)]
    exact hm
  have hpower := between_powersOfTen ⟨e.natAbs, by omega⟩
  rw [Float.ofScientific, dif_pos ⟨hm, he⟩]
  by_cases hneg : e < 0
  · rw [if_pos (by simpa using hneg)]
    exact hnumeral.div hpower (by omega) hK' (by omega)
  · rw [if_neg (by simpa using hneg)]
    exact hnumeral.mul hpower (by omega) hK' (by omega)

/-- A small numeral is far from overflow. -/
theorem lt_ceiling_of_small {e : Int} (hm : m < 2 ^ 53) (he : e.natAbs ≤ 22) (hK : 128 ≤ K) :
    (m * 10 ^ e : ℚ) < ceiling K := by
  have hmantissa : (m : ℚ) ≤ 2 ^ 53 := by
    exact_mod_cast hm.le
  have hpower : (10 : ℚ) ^ e ≤ 10 ^ (22 : Int) := zpow_le_zpow_right₀ (by norm_num) (by omega)
  calc (m * 10 ^ e : ℚ)
      ≤ 2 ^ 53 * 10 ^ (22 : Int) :=
        mul_le_mul hmantissa hpower (zpow_pos (by norm_num) e).le (by norm_num)
    _ < ceiling 128 := by
        rw [ceiling]
        norm_num
    _ ≤ ceiling K := ceiling_le hK

/-- **A numeral is rounded by its size**, on either way that is taken to round it. -/
theorem within_ofScientific_iff {e : Int} (hm : 0 < m) (hlarge : e ≤ 2 ^ 11)
    (hsmall : -(2 ^ 11 + m.log2) ≤ e) (hK : 128 ≤ K) (hK' : K ≤ 971) :
    Within K (Float.ofScientific m (e < 0) e.natAbs) ↔ (m * 10 ^ e : ℚ) < ceiling K := by
  by_cases hfast : m < 2 ^ 53 ∧ e.natAbs ≤ 22
  · exact iff_of_true (within_ofScientific_of_small hfast.1 hfast.2 hK hK')
      (lt_ceiling_of_small hfast.1 hfast.2 hK)
  · have hexponent :
        (if decide (e < 0) then Int.negOfNat e.natAbs else Int.ofNat e.natAbs) = e := by
      by_cases hneg : e < 0
      · rw [if_pos (by simpa using hneg), Int.negOfNat_eq]
        show -(e.natAbs : Int) = e
        omega
      · rw [if_neg (by simpa using hneg)]
        show (e.natAbs : Int) = e
        omega
    rw [Float.ofScientific, dif_neg hfast, hexponent]
    refine (within_pack_iff (canonical_ofScientific hm hlarge hsmall) (by omega) hK').trans ?_
    exact below_ofScientific_iff hm hlarge hsmall (by omega)

end Roaming.Binary64
