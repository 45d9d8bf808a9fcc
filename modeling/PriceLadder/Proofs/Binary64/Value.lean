import Mathlib.Algebra.Order.Field.Power
import Mathlib.Data.Rat.Floor
import Mathlib.Tactic.Ring
import PriceLadder.Binary64.Whole
import PriceLadder.Proofs.Powers

set_option autoImplicit false

namespace PriceLadder.Binary64

open Float.Model (Format UnpackedFloat)
open Float.Model.UnpackedFloat (Sign)

/-- The number that an unpacked double stands for. An infinity counts as the power of two that
finite doubles stay below, which keeps the order. -/
def valueOf : UnpackedFloat → ℚ
  | .notANumber => 0
  | .zero _ => 0
  | .infinity sign => sign.apply 1 * 2 ^ 1024
  | .finite sign m e _ => sign.apply m * 2 ^ e

def value (x : Float) : ℚ :=
  valueOf x.toModel.unpack

/-- Whether a finite double has the mantissa and the exponent that its bits give it: the mantissa is
a full one wherever the exponent could be less. -/
def Canonical : UnpackedFloat → Prop
  | .finite _ m e _ => m < 2 ^ 53 ∧ -1074 ≤ e ∧ e ≤ 971 ∧ (2 ^ 52 ≤ m ∨ e = -1074)
  | _ => True

/-- Doubles that are not negative: zero, positive numbers and positive infinity. -/
inductive Nonneg : UnpackedFloat → Prop where
  | zero (sign : Sign) : Nonneg (.zero sign)
  | finite {m : Nat} {e : Int} (positive : 0 < m) : Nonneg (.finite .positive m e positive)
  | infinity : Nonneg (.infinity .positive)

theorem toNat_one_append (mantissa : BitVec 52) :
    (1#1 ++ mantissa).toNat = 2 ^ 52 + mantissa.toNat := by
  have implicit : (1#1).toNat <<< 52 = 2 ^ 52 := by decide
  rw [BitVec.toNat_append, implicit, Nat.or_comm, Nat.or_two_pow_eq_add_of_lt mantissa.isLt,
    Nat.add_comm]

theorem canonical_unpackBits (bits : BitVec Format.binary64.numBits) :
    Canonical (UnpackedFloat.unpack Format.binary64 bits) := by
  have short : (UnpackedFloat.unpackMantissa bits).toNat < 2 ^ 52 := BitVec.isLt _
  have narrow : (UnpackedFloat.unpackExponent bits).toNat < 2 ^ 11 := BitVec.isLt _
  have bias : (Format.binary64.exponentBias : Int) + (52 : Nat) = 1075 := rfl
  delta UnpackedFloat.unpack
  dsimp only
  by_cases special : UnpackedFloat.unpackExponent bits = -1#_
  · rw [if_pos special]
    by_cases infinite : UnpackedFloat.unpackMantissa bits = 0#_
    · rw [if_pos infinite]
      trivial
    · rw [if_neg infinite]
      trivial
  rw [if_neg special]
  have high : (UnpackedFloat.unpackExponent bits).toNat ≠ 2047 :=
    fun full => special (BitVec.eq_of_toNat_eq full)
  by_cases subnormal : UnpackedFloat.unpackExponent bits = 0#_
  · rw [if_pos subnormal]
    by_cases zero : UnpackedFloat.unpackMantissa bits = 0#_
    · rw [dif_pos zero]
      trivial
    · rw [dif_neg zero, subnormal]
      change (UnpackedFloat.unpackMantissa bits).toNat < 2 ^ 53 ∧ _
      exact ⟨by omega, by decide, by decide, .inr (by decide)⟩
  · rw [if_neg subnormal]
    have low : (UnpackedFloat.unpackExponent bits).toNat ≠ 0 :=
      fun zero => subnormal (BitVec.eq_of_toNat_eq zero)
    change (1#1 ++ UnpackedFloat.unpackMantissa bits).toNat < 2 ^ 53 ∧
      -1074 ≤ (_ : Int) - (Format.binary64.exponentBias + (52 : Nat)) ∧ _ ∧
      (_ ≤ (1#1 ++ UnpackedFloat.unpackMantissa bits).toNat ∨ _)
    rw [toNat_one_append, bias]
    omega

theorem canonical_unpack (x : Float) : Canonical x.toModel.unpack :=
  canonical_unpackBits _

theorem valueOf_zero (sign : Sign) : valueOf (.zero sign) = 0 :=
  rfl

theorem valueOf_finite {m : Nat} {e : Int} (positive : 0 < m) :
    valueOf (.finite .positive m e positive) = m * 2 ^ e := by
  change ((m : Int) : ℚ) * 2 ^ e = _
  rw [Int.cast_natCast]

theorem valueOf_infinity : valueOf (.infinity .positive) = 2 ^ 1024 := by
  change ((1 : Int) : ℚ) * 2 ^ 1024 = _
  rw [Int.cast_one, one_mul]

section

variable {m n : Nat} {e f : Int}

/-- A full mantissa is worth more than any mantissa with a smaller exponent. -/
theorem mul_zpow_lt (short : m < 2 ^ 53) (full : 2 ^ 52 ≤ n) (below : e < f) :
    (m : ℚ) * 2 ^ e < n * 2 ^ f := by
  have shortCast : (m : ℚ) < 2 ^ 53 := by exact_mod_cast short
  have fullCast : (2 : ℚ) ^ 52 ≤ n := by exact_mod_cast full
  calc (m : ℚ) * 2 ^ e
    _ < 2 ^ 53 * 2 ^ e := mul_lt_mul_of_pos_right shortCast (by positivity)
    _ = 2 ^ 52 * 2 ^ (e + 1) := by rw [zpow_add_one₀ two_ne_zero]; ring
    _ ≤ n * 2 ^ f := mul_le_mul fullCast (zpow_le_zpow_right₀ one_le_two below) (by positivity)
        (by positivity)

theorem compare_mul_zpow {positive : 0 < m} {otherPositive : 0 < n}
    (own : Canonical (.finite .positive m e positive))
    (other : Canonical (.finite .positive n f otherPositive)) :
    compare ((m : ℚ) * 2 ^ e) (n * 2 ^ f) = (compare e f).then (compare m n) := by
  obtain ⟨short, low, -, full⟩ := own
  obtain ⟨otherShort, otherLow, -, otherFull⟩ := other
  rcases lt_trichotomy e f with below | rfl | above
  · rw [compare_lt_iff_lt.2 below, compare_lt_iff_lt.2 (mul_zpow_lt short (by omega) below)]
    rfl
  · have unit : (0 : ℚ) < 2 ^ e := by positivity
    rw [compare_eq_iff_eq.2 rfl]
    rcases lt_trichotomy m n with below | rfl | above
    · rw [compare_lt_iff_lt.2 below, compare_lt_iff_lt.2]
      · rfl
      · exact mul_lt_mul_of_pos_right (by exact_mod_cast below) unit
    · rw [compare_eq_iff_eq.2 rfl, compare_eq_iff_eq.2 rfl]
      rfl
    · rw [compare_gt_iff_gt.2 above, compare_gt_iff_gt.2]
      · rfl
      · exact mul_lt_mul_of_pos_right (by exact_mod_cast above) unit
  · rw [compare_gt_iff_gt.2 above, compare_gt_iff_gt.2 (mul_zpow_lt otherShort (by omega) above)]
    rfl

theorem mul_zpow_lt_two_pow {positive : 0 < m} (own : Canonical (.finite .positive m e positive)) :
    (m : ℚ) * 2 ^ e < 2 ^ 1024 := by
  obtain ⟨short, -, high, -⟩ := own
  have next : (m : ℚ) * 2 ^ e < _ := mul_zpow_lt (f := 972) short le_rfl (by omega)
  calc (m : ℚ) * 2 ^ e
    _ < ((2 ^ 52 : Nat) : ℚ) * 2 ^ (972 : Int) := next
    _ = 2 ^ 1024 := by rw [Nat.cast_pow, zpow_ofNat, Nat.cast_ofNat, ← pow_add]

end

theorem Nonneg.valueOf_nonneg {a : UnpackedFloat} (nonneg : Nonneg a) : 0 ≤ valueOf a := by
  cases nonneg with
  | zero sign => exact le_rfl
  | finite positive =>
    rw [valueOf_finite]
    positivity
  | infinity =>
    rw [valueOf_infinity]
    positivity

theorem Nonneg.valueOf_le {a : UnpackedFloat} (nonneg : Nonneg a) (canonical : Canonical a) :
    valueOf a ≤ 2 ^ 1024 := by
  cases nonneg with
  | zero sign =>
    rw [valueOf_zero]
    positivity
  | finite positive =>
    rw [valueOf_finite]
    exact (mul_zpow_lt_two_pow canonical).le
  | infinity => exact valueOf_infinity.le

/-- The order of doubles is that of the numbers they stand for. -/
theorem compare_eq {a b : UnpackedFloat} (own : Canonical a) (other : Canonical b)
    (nonneg : Nonneg a) (otherNonneg : Nonneg b) :
    a.compare b = some (compare (valueOf a) (valueOf b)) := by
  have least {m : Nat} {e : Int} (positive : 0 < m) :
      0 < valueOf (.finite .positive m e positive) := by
    rw [valueOf_finite]
    positivity
  have greatest : 0 < valueOf (.infinity .positive) := by
    rw [valueOf_infinity]
    positivity
  have bounded {m : Nat} {e : Int} {positive : 0 < m}
      (canonical : Canonical (.finite .positive m e positive)) :
      valueOf (.finite .positive m e positive) < valueOf (.infinity .positive) := by
    rw [valueOf_finite, valueOf_infinity]
    exact mul_zpow_lt_two_pow canonical
  cases nonneg with
  | zero sign =>
    cases otherNonneg with
    | zero otherSign => rw [valueOf_zero, valueOf_zero, compare_eq_iff_eq.2 rfl]; rfl
    | finite otherPositive => rw [valueOf_zero, compare_lt_iff_lt.2 (least otherPositive)]; rfl
    | infinity => rw [valueOf_zero, compare_lt_iff_lt.2 greatest]; rfl
  | finite positive =>
    cases otherNonneg with
    | zero otherSign => rw [valueOf_zero, compare_gt_iff_gt.2 (least positive)]; rfl
    | finite otherPositive =>
      rw [valueOf_finite, valueOf_finite, compare_mul_zpow own other]
      rfl
    | infinity => rw [compare_lt_iff_lt.2 (bounded own)]; rfl
  | infinity =>
    cases otherNonneg with
    | zero otherSign => rw [valueOf_zero, compare_gt_iff_gt.2 greatest]; rfl
    | finite otherPositive => rw [compare_gt_iff_gt.2 (bounded other)]; rfl
    | infinity => rw [compare_eq_iff_eq.2 rfl]; rfl

section

variable {x y : Float}

theorem lt_iff_value_lt (nonneg : Nonneg x.toModel.unpack) (otherNonneg : Nonneg y.toModel.unpack) :
    x < y ↔ value x < value y := by
  have compared : x < y ↔ (x.toModel.unpack.compare y.toModel.unpack == some .lt) = true :=
    decide_eq_true_iff (p := x.toModel < y.toModel)
  rw [compared, compare_eq (canonical_unpack x) (canonical_unpack y) nonneg otherNonneg,
    beq_iff_eq, Option.some_inj, compare_lt_iff_lt]
  rfl

theorem le_iff_value_le (nonneg : Nonneg x.toModel.unpack) (otherNonneg : Nonneg y.toModel.unpack) :
    x ≤ y ↔ value x ≤ value y := by
  have compared : x ≤ y ↔ (x.toModel.unpack.compare y.toModel.unpack).any (·.isLE) = true :=
    decide_eq_true_iff (p := x.toModel ≤ y.toModel)
  rw [compared, compare_eq (canonical_unpack x) (canonical_unpack y) nonneg otherNonneg,
    Option.any_some, Ordering.isLE_iff_ne_gt, compare_gt_iff_gt.not, not_lt]
  rfl

end

theorem floor_eq {sign : Sign} {m : Nat} {e : Int} (positive : 0 < m) :
    floor sign m e = ⌊valueOf (.finite sign m e positive)⌋ := by
  have whole : sign.apply (numerator m e) = sign.apply m * (2 ^ e.toNat : Nat) := by
    cases sign with
    | positive => exact Int.natCast_mul _ _
    | negative =>
      change -((m * 2 ^ e.toNat : Nat) : Int) = -(m : Int) * _
      rw [Int.natCast_mul, Int.neg_mul]
  have fraction : valueOf (.finite sign m e positive) =
      ((sign.apply (numerator m e) : Int) : ℚ) / (denominator e : Nat) := by
    change ((sign.apply m : Int) : ℚ) * 2 ^ e = _
    have divisor : ((denominator e : Nat) : ℚ) = 2 ^ (-e).toNat := Nat.cast_pow _ _
    rw [eq_div_iff (by rw [divisor]; positivity), divisor, mul_assoc,
      Powers.zpow_mul_pow two_ne_zero, whole, Int.cast_mul, Int.cast_natCast, Nat.cast_pow,
      Nat.cast_ofNat]
  rw [fraction, Rat.floor_intCast_div_natCast]
  rfl

theorem abs_valueOf_infinity (sign : Sign) : |valueOf (.infinity sign)| = 2 ^ 1024 := by
  have positive : (0 : ℚ) < 2 ^ 1024 := by positivity
  cases sign with
  | positive => rw [valueOf_infinity, abs_of_pos positive]
  | negative =>
    change |((-1 : Int) : ℚ) * 2 ^ 1024| = _
    rw [Int.cast_neg, Int.cast_one, neg_one_mul, abs_neg, abs_of_pos positive]

theorem toWhole_floor {low high : Int} {x : Float} (bounded : |value x| < 2 ^ 1024)
    (lower : low ≤ ⌊value x⌋) (upper : ⌊value x⌋ ≤ high) :
    toWhole floor low high x = ⌊value x⌋ := by
  unfold toWhole
  unfold value at *
  generalize x.toModel.unpack = unpacked at *
  cases unpacked with
  | notANumber => exact Int.floor_zero.symm
  | zero sign => exact Int.floor_zero.symm
  | infinity sign => exact absurd (abs_valueOf_infinity sign) bounded.ne
  | finite sign m e positive =>
    change max low (min high (floor sign m e)) = _
    rw [floor_eq positive]
    omega

theorem toInt_floorInt32 {x : Float} (low : -2 ^ 31 ≤ value x) (high : value x < 2 ^ 31) :
    (floorInt32 x).toInt = ⌊value x⌋ := by
  have floor_low : -2 ^ 31 ≤ ⌊value x⌋ := Int.le_floor.2 (by exact_mod_cast low)
  have floor_high : ⌊value x⌋ < 2 ^ 31 := Int.floor_lt.2 (by exact_mod_cast high)
  have word : (2 : ℚ) ^ 31 < 2 ^ 1024 := pow_lt_pow_right₀ one_lt_two (by decide)
  have bounded : |value x| < 2 ^ 1024 := abs_lt.2 ⟨(neg_lt_neg word).trans_le low, high.trans word⟩
  rw [floorInt32, Int32.toInt_minValue, Int32.toInt_maxValue,
    toWhole_floor bounded floor_low (by omega), Int32.toInt_ofInt_of_le floor_low floor_high]

end PriceLadder.Binary64
