import Mathlib.Analysis.Complex.ExponentialBounds
import Mathlib.Analysis.SpecialFunctions.Log.Base
import PriceLadder.Decade
import PriceLadder.Proofs.Binary64.PowerOfTen

set_option autoImplicit false

namespace PriceLadder.Binary64

/-- The decade of a price, with the logarithm of the machine as an argument. -/
def decadeBy (log10 : Float → Float) (price : Float) : Except Error Int32 :=
  if isPrice price then .ok (decadeNear (floorInt32 (log10 price)) price)
  else .error (.invalidInput (.priceNotPositive price))

theorem decade_eq : decade = decadeBy Float.log10 :=
  rfl

/-- Whether a price is in the decade `z` as the powers of ten that are doubles have it. -/
def Brackets (z : Int) (price : Float) : Prop :=
  pow10 z ≤ price ∧ price < pow10 (z + 1)

instance {z : Int} {price : Float} : Decidable (Brackets z price) :=
  inferInstanceAs (Decidable (_ ∧ _))

def estimate (log10 : Float → Float) (price : Float) : Int :=
  ⌊value (log10 price)⌋

/-- How far a logarithm is from the true one, in decades. -/
noncomputable def logError (log10 : Float → Float) (price : Float) : ℝ :=
  |(value (log10 price) : ℝ) - Real.logb 10 (value price)|

section

variable {price : Float}

theorem exists_unpack_of_isPrice (valid : isPrice price) :
    ∃ m e positive, price.toModel.unpack = .finite .positive m e positive := by
  rw [isPrice, Bool.and_eq_true, Bool.not_eq_true', decide_eq_false_iff_not] at valid
  obtain ⟨finite, above⟩ := valid
  have unpackedFinite : price.toModel.unpack.isFinite = true := finite
  have unpackedAbove : ¬ (price.toModel.unpack.le (.zero .positive)) = true :=
    fun below => above (decide_eq_true_iff.2 below)
  generalize price.toModel.unpack = unpacked at *
  cases unpacked with
  | notANumber => cases unpackedFinite
  | infinity sign => cases unpackedFinite
  | zero sign => exact absurd rfl unpackedAbove
  | finite sign m e positive =>
    cases sign with
    | negative => exact absurd rfl unpackedAbove
    | positive => exact ⟨m, e, positive, rfl⟩

theorem nonneg_of_isPrice (valid : isPrice price) : Nonneg price.toModel.unpack := by
  obtain ⟨m, e, positive, unpacked⟩ := exists_unpack_of_isPrice valid
  rw [unpacked]
  exact .finite positive

theorem value_lt_of_isPrice (valid : isPrice price) : value price < 2 ^ 1024 := by
  obtain ⟨m, e, positive, unpacked⟩ := exists_unpack_of_isPrice valid
  have canonical := canonical_unpack price
  rw [unpacked] at canonical
  rw [value, unpacked, valueOf_finite]
  exact mul_zpow_lt_two_pow canonical

theorem le_value_of_isPrice (valid : isPrice price) : 2 ^ (-1074 : Int) ≤ value price := by
  obtain ⟨m, e, positive, unpacked⟩ := exists_unpack_of_isPrice valid
  have canonical := canonical_unpack price
  rw [unpacked] at canonical
  rw [value, unpacked, valueOf_finite]
  have one : (1 : ℚ) ≤ m := by exact_mod_cast positive
  calc (2 : ℚ) ^ (-1074 : Int)
    _ ≤ 2 ^ e := zpow_le_zpow_right₀ one_le_two canonical.2.1
    _ ≤ m * 2 ^ e := le_mul_of_one_le_left (by positivity) one

theorem value_pos_of_isPrice (valid : isPrice price) : 0 < value price :=
  lt_of_lt_of_le (by positivity) (le_value_of_isPrice valid)

end

section

variable {v : ℚ} {k : Int}

theorem cast_ten_zpow (k : Int) : ((10 ^ k : ℚ) : ℝ) = 10 ^ (k : ℝ) := by
  rw [Rat.cast_zpow, Rat.cast_ofNat, Real.rpow_intCast]

theorem lt_logb_iff (positive : 0 < v) : (k : ℝ) < Real.logb 10 v ↔ 10 ^ k < v := by
  rw [Real.lt_logb_iff_rpow_lt (by norm_num) (by exact_mod_cast positive), ← cast_ten_zpow,
    Rat.cast_lt]

theorem logb_lt_iff (positive : 0 < v) : Real.logb 10 v < (k : ℝ) ↔ v < 10 ^ k := by
  rw [Real.logb_lt_iff_lt_rpow (by norm_num) (by exact_mod_cast positive), ← cast_ten_zpow,
    Rat.cast_lt]

theorem one_add_le_ten_rpow {x : ℝ} (nonneg : 0 ≤ x) : 1 + x ≤ 10 ^ x := by
  have base : Real.exp 1 ≤ 10 := (Real.exp_one_lt_d9.trans (by norm_num)).le
  calc 1 + x
    _ ≤ Real.exp x := by linarith [Real.add_one_le_exp x]
    _ = Real.exp 1 ^ x := (Real.exp_one_rpow x).symm
    _ ≤ 10 ^ x := Real.rpow_le_rpow (Real.exp_pos 1).le base nonneg

/-- What the logarithm is above a whole number, the number is above the power of ten. -/
theorem mul_zpow_le_of_le_logb (positive : 0 < v) {margin : ℚ} (nonneg : 0 ≤ margin)
    (above : (k : ℝ) + margin ≤ Real.logb 10 v) : (1 + margin) * 10 ^ k ≤ v := by
  have bound : (10 : ℝ) ^ (k + margin : ℝ) ≤ v :=
    (Real.le_logb_iff_rpow_le (by norm_num) (by exact_mod_cast positive)).1 above
  rw [Real.rpow_add (by norm_num), mul_comm, ← cast_ten_zpow] at bound
  have grown := one_add_le_ten_rpow (x := margin) (by exact_mod_cast nonneg)
  have scale : (0 : ℝ) < ((10 ^ k : ℚ) : ℝ) := by positivity
  have goal : (1 + margin : ℝ) * ((10 ^ k : ℚ) : ℝ) ≤ v :=
    (mul_le_mul_of_nonneg_right grown scale.le).trans bound
  exact_mod_cast goal

theorem mul_le_zpow_of_logb_le (positive : 0 < v) {margin : ℚ} (nonneg : 0 ≤ margin)
    (below : Real.logb 10 v + margin ≤ (k : ℝ)) : (1 + margin) * v ≤ 10 ^ k := by
  have cast : (0 : ℝ) < v := by exact_mod_cast positive
  have bound : (10 : ℝ) ^ (Real.logb 10 v + margin) ≤ 10 ^ (k : ℝ) :=
    Real.rpow_le_rpow_of_exponent_le (by norm_num) below
  rw [Real.rpow_add (by norm_num), Real.rpow_logb (by norm_num) (by norm_num) cast, mul_comm,
    ← cast_ten_zpow] at bound
  have grown := one_add_le_ten_rpow (x := margin) (by exact_mod_cast nonneg)
  have goal : (1 + margin : ℝ) * v ≤ ((10 ^ k : ℚ) : ℝ) :=
    (mul_le_mul_of_nonneg_right grown cast.le).trans bound
  exact_mod_cast goal

end

section

variable {log10 : Float → Float} {price : Float}

theorem logError_lt {k : Int} {d : ℚ} (own : 10 ^ k < value price)
    (next : value price < 10 ^ (k + 1)) (low : value (log10 price) - d ≤ k)
    (high : k + 1 ≤ value (log10 price) + d) : logError log10 price < d := by
  have positive : 0 < value price := lt_trans (by positivity) own
  have above := (lt_logb_iff positive).2 own
  have below := (logb_lt_iff positive).2 next
  have lower : ((value (log10 price) - d : ℚ) : ℝ) ≤ ((k : ℚ) : ℝ) := Rat.cast_le.2 low
  have upper : ((k + 1 : ℚ) : ℝ) ≤ ((value (log10 price) + d : ℚ) : ℝ) := Rat.cast_le.2 high
  push_cast at lower upper below
  exact abs_lt.2 ⟨by linarith, by linarith⟩

/-- An estimate of less than a decade off is one of a double or a decade beyond. -/
theorem estimate_bounds (valid : isPrice price) (close : logError log10 price < 1) :
    -325 ≤ estimate log10 price ∧ estimate log10 price ≤ 309 := by
  have positive := value_pos_of_isPrice valid
  obtain ⟨above, below⟩ := abs_lt.1 close
  have low : ((-324 : Int) : ℝ) < Real.logb 10 (value price) := by
    refine (lt_logb_iff positive).2 (lt_of_lt_of_le ?_ (le_value_of_isPrice valid))
    decide +kernel
  have high : Real.logb 10 (value price) < ((309 : Int) : ℝ) := by
    refine (logb_lt_iff positive).2 ((value_lt_of_isPrice valid).trans ?_)
    decide +kernel
  push_cast at low high
  have lower : (-325 : ℝ) < value (log10 price) := by linarith
  have upper : (value (log10 price) : ℝ) < 310 := by linarith
  constructor
  · exact Int.le_floor.2 (by exact_mod_cast lower.le)
  · exact Int.lt_add_one_iff.1 (Int.floor_lt.2 (by exact_mod_cast upper))

theorem toInt_floorInt32_log (valid : isPrice price) (close : logError log10 price < 1) :
    (floorInt32 (log10 price)).toInt = estimate log10 price := by
  obtain ⟨low, high⟩ := estimate_bounds valid close
  have lower : ((-325 : Int) : ℚ) ≤ value (log10 price) := Int.le_floor.1 low
  have upper : value (log10 price) < ((310 : Int) : ℚ) :=
    Int.floor_lt.1 (Int.lt_add_one_iff.2 high)
  push_cast at lower upper
  exact toInt_floorInt32 (by linarith) (by linarith)

end

section

variable {price : Float} {k : Int}

theorem pow10_le_iff (valid : isPrice price) (low : -2 ^ 9 < k) (high : k < 2 ^ 9) :
    pow10 k ≤ price ↔ value (pow10 k) ≤ value price :=
  le_iff_value_le (nonneg_pow10 low high) (nonneg_of_isPrice valid)

theorem lt_pow10_iff (valid : isPrice price) (low : -2 ^ 9 < k) (high : k < 2 ^ 9) :
    price < pow10 k ↔ value price < value (pow10 k) :=
  lt_iff_value_lt (nonneg_of_isPrice valid) (nonneg_pow10 low high)

/-- A power is at most the price if it is so with room for its rounding. -/
theorem pow10_le_of_le_logb (valid : isPrice price) (low : -2 ^ 9 < k) (high : k ≤ 308)
    (room : (k : ℝ) + 1 / 10 ^ 12 ≤ Real.logb 10 (value price)) : pow10 k ≤ price := by
  have positive := value_pos_of_isPrice valid
  rw [pow10_le_iff valid low (by omega)]
  by_cases tiny : k < -308
  · rw [value_pow10_zero low tiny]
    exact positive.le
  · have scaled : (1 + 1 / 10 ^ 12 : ℚ) * 10 ^ k ≤ value price := by
      refine mul_zpow_le_of_le_logb positive (by norm_num) ?_
      push_cast
      exact room
    have near := (near_pow10 (e := k) (by omega) high).high
    have unit : (0 : ℚ) < 10 ^ k := by positivity
    linarith

theorem lt_pow10_of_logb_le (valid : isPrice price) (low : -308 ≤ k) (high : k < 2 ^ 9)
    (room : Real.logb 10 (value price) + 1 / 10 ^ 12 ≤ (k : ℝ)) : price < pow10 k := by
  have positive := value_pos_of_isPrice valid
  rw [lt_pow10_iff valid (by omega) high]
  by_cases huge : 308 < k
  · rw [value_pow10_infinity huge high]
    exact value_lt_of_isPrice valid
  · have scaled : (1 + 1 / 10 ^ 12 : ℚ) * value price ≤ 10 ^ k := by
      refine mul_le_zpow_of_logb_le positive (by norm_num) ?_
      push_cast
      exact room
    have near := (near_pow10 (e := k) low (by omega)).low
    linarith

theorem Brackets.le {y z : Int} (valid : isPrice price) (own : Brackets y price)
    (other : Brackets z price) (low : -2 ^ 9 < y) (high : z < 2 ^ 9) : z ≤ y := by
  by_contra above
  have order := value_pow10_mono (d := y + 1) (e := z) (by omega) (by omega) high
  have below := (lt_pow10_iff valid (by omega) (by omega)).1 own.2
  have least := (pow10_le_iff valid (by omega) high).1 other.1
  exact absurd (order.trans least) below.not_ge

/-- A price is in one decade at most. -/
theorem Brackets.unique {y z : Int} (valid : isPrice price) (own : Brackets y price)
    (other : Brackets z price) (low : -2 ^ 9 < y ∧ -2 ^ 9 < z) (high : y < 2 ^ 9 ∧ z < 2 ^ 9) :
    y = z :=
  Int.le_antisymm (other.le valid own low.2 high.1) (own.le valid other low.1 high.2)

variable {first : Int32}

theorem decadeNear_cases (first : Int32) (price : Float) (low : -2 ^ 9 < first.toInt)
    (high : first.toInt < 2 ^ 9) :
    price < pow10 first.toInt ∧ (decadeNear first price).toInt = first.toInt - 1 ∨
      ¬ price < pow10 first.toInt ∧ pow10 (first.toInt + 1) ≤ price ∧
        (decadeNear first price).toInt = first.toInt + 1 ∨
      ¬ price < pow10 first.toInt ∧ ¬ pow10 (first.toInt + 1) ≤ price ∧
        (decadeNear first price).toInt = first.toInt := by
  unfold decadeNear
  split
  · next below =>
    refine .inl ⟨below, ?_⟩
    rw [Int32.toInt_sub, Int32.toInt_one, Int.bmod_eq_of_le (by omega) (by omega)]
  · next notBelow =>
    split
    · next above =>
      refine .inr (.inl ⟨notBelow, above, ?_⟩)
      rw [Int32.toInt_add, Int32.toInt_one, Int.bmod_eq_of_le (by omega) (by omega)]
    · next notAbove => exact .inr (.inr ⟨notBelow, notAbove, rfl⟩)

/-- One step finds the decade if and only if it is at most one step away. -/
theorem brackets_decadeNear_iff (valid : isPrice price) (low : -2 ^ 9 + 1 < first.toInt)
    (high : first.toInt + 2 < 2 ^ 9) : Brackets (decadeNear first price).toInt price ↔
      pow10 (first.toInt - 1) ≤ price ∧ price < pow10 (first.toInt + 2) := by
  have lower : value (pow10 (first.toInt - 1)) ≤ value (pow10 first.toInt) :=
    value_pow10_mono (by omega) (by omega) (by omega)
  have middle : value (pow10 first.toInt) ≤ value (pow10 (first.toInt + 1)) :=
    value_pow10_mono (by omega) (by omega) (by omega)
  have upper : value (pow10 (first.toInt + 1)) ≤ value (pow10 (first.toInt + 2)) :=
    value_pow10_mono (by omega) (by omega) (by omega)
  have answers := decadeNear_cases first price (by omega) (by omega)
  rw [pow10_le_iff valid (by omega) (by omega), lt_pow10_iff valid (by omega) (by omega)] at answers
  rw [Brackets, pow10_le_iff valid (k := first.toInt - 1) (by omega) (by omega),
    lt_pow10_iff valid (k := first.toInt + 2) (by omega) (by omega)]
  -- By the order of the four powers each comparison that is made settles one that is asked for.
  obtain ⟨below, answer⟩ | ⟨notBelow, above, answer⟩ | ⟨notBelow, notAbove, answer⟩ := answers
  all_goals rw [answer, pow10_le_iff valid (by omega) (by omega),
    lt_pow10_iff valid (by omega) (by omega)]
  · rw [Int.sub_add_cancel]
    exact and_congr_right fun _ => iff_of_true below (below.trans_le (middle.trans upper))
  · rw [Int.add_assoc]
    exact and_congr_left fun _ => iff_of_true above ((lower.trans middle).trans above)
  · rw [not_lt] at notBelow
    rw [not_le] at notAbove
    exact iff_of_true ⟨notBelow, notAbove⟩ ⟨lower.trans notBelow, notAbove.trans_le upper⟩

/-- Where the powers are zero, the answer is one more than the estimate. -/
theorem decadeNear_of_tiny (valid : isPrice price) (low : -2 ^ 9 < first.toInt)
    (tiny : first.toInt < -310) : (decadeNear first price).toInt = first.toInt + 1 := by
  have positive := value_pos_of_isPrice valid
  have zero := value_pow10_zero low (by omega)
  have nextZero := value_pow10_zero (e := first.toInt + 1) (by omega) (by omega)
  have answers := decadeNear_cases first price low (by omega)
  rw [lt_pow10_iff valid low (by omega), zero, pow10_le_iff valid (by omega) (by omega), nextZero]
    at answers
  obtain ⟨below, -⟩ | ⟨-, -, answer⟩ | ⟨-, notAbove, -⟩ := answers
  · exact absurd below positive.le.not_gt
  · exact answer
  · exact absurd positive.le notAbove

end

section

variable {log10 : Float → Float} {price : Float}

theorem estimate_le (log10 : Float → Float) (price : Float) :
    (estimate log10 price : ℝ) ≤ value (log10 price) := by
  exact_mod_cast Rat.cast_le (K := ℝ).2 (Int.floor_le (value (log10 price)))

theorem lt_estimate_add_one (log10 : Float → Float) (price : Float) :
    (value (log10 price) : ℝ) < estimate log10 price + 1 := by
  exact_mod_cast Rat.cast_lt (K := ℝ).2 (Int.lt_floor_add_one (value (log10 price)))

theorem pow10_le_and_lt_pow10 (valid : isPrice price)
    (close : logError log10 price ≤ 1 - 1 / 10 ^ 12) (large : -310 ≤ estimate log10 price) :
    pow10 (estimate log10 price - 1) ≤ price ∧ price < pow10 (estimate log10 price + 2) := by
  obtain ⟨low, high⟩ := estimate_bounds valid (close.trans_lt (by norm_num))
  obtain ⟨above, below⟩ := abs_le.1 close
  have own := estimate_le log10 price
  have next := lt_estimate_add_one log10 price
  constructor
  · refine pow10_le_of_le_logb valid (by omega) (by omega) ?_
    push_cast
    linarith
  · refine lt_pow10_of_logb_le valid (by omega) (by omega) ?_
    push_cast
    linarith

/-- Prices of at least `10 ^ (-308)` have estimates that one step brings into the powers that are
not zero. -/
theorem estimate_of_pow10_le (valid : isPrice price) (close : logError log10 price < 1)
    (large : pow10 (-308) ≤ price) : -310 ≤ estimate log10 price := by
  have positive := value_pos_of_isPrice valid
  obtain ⟨above, below⟩ := abs_lt.1 close
  rw [pow10_le_iff valid (by decide) (by decide)] at large
  have near := (near_pow10 (e := -308) (by decide) (by decide)).low
  have low : ((-309 : Int) : ℝ) < Real.logb 10 (value price) := by
    refine (lt_logb_iff positive).2 (lt_of_lt_of_le ?_ (near.trans large))
    decide +kernel
  push_cast at low
  have lower : (-310 : ℝ) < value (log10 price) := by linarith
  exact Int.le_floor.2 (by exact_mod_cast lower.le)

/-- The decade of a price, for a logarithm that is off by less than one decade. There always is an
answer. It is the decade of the price if and only if the estimate is at most one step away, as it is
wherever the error leaves room for the rounding of the powers and the estimate is at least `-310`,
which holds for all prices of at least `10 ^ (-308)`. With a lower estimate the answer is one more
than it, and never the decade. -/
theorem decadeBy_brackets (log10 : Float → Float) (price : Float) (valid : isPrice price)
    (close : logError log10 price < 1) :
    ∃ z, decadeBy log10 price = .ok z ∧
      (Brackets z.toInt price ↔ pow10 (estimate log10 price - 1) ≤ price ∧
        price < pow10 (estimate log10 price + 2)) ∧
      (-310 ≤ estimate log10 price → logError log10 price ≤ 1 - 1 / 10 ^ 12 →
        Brackets z.toInt price) ∧
      (pow10 (-308) ≤ price → -310 ≤ estimate log10 price) ∧
      (estimate log10 price < -310 →
        z.toInt = estimate log10 price + 1 ∧ ¬ Brackets z.toInt price) := by
  obtain ⟨low, high⟩ := estimate_bounds valid close
  have first := toInt_floorInt32_log valid close
  have brackets : Brackets (decadeNear (floorInt32 (log10 price)) price).toInt price ↔ _ :=
    brackets_decadeNear_iff valid (by omega) (by omega)
  rw [first] at brackets
  refine ⟨_, if_pos valid, brackets, fun large room => ?_, estimate_of_pow10_le valid close,
    fun tiny => ⟨?_, ?_⟩⟩
  · exact brackets.2 (pow10_le_and_lt_pow10 valid room large)
  · rw [decadeNear_of_tiny valid (by omega) (by omega), first]
  · intro inside
    have below := (brackets.1 inside).2
    rw [lt_pow10_iff valid (by omega) (by omega), value_pow10_zero (by omega) (by omega)] at below
    exact absurd below (value_pos_of_isPrice valid).le.not_gt

end

/-- The least normal double and its logarithm. -/
theorem decadeBy_brackets_least_normal :
    isPrice 2.2250738585072014e-308 ∧
      logError (fun _ => -307.6526555685888) 2.2250738585072014e-308 < 1 ∧
      ∃ z, decadeBy (fun _ => -307.6526555685888) 2.2250738585072014e-308 = .ok z ∧
        Brackets z.toInt 2.2250738585072014e-308 := by
  have valid : isPrice 2.2250738585072014e-308 := by decide +kernel
  have error : logError (fun _ => -307.6526555685888) 2.2250738585072014e-308 < (7 / 10 : ℚ) :=
    logError_lt (k := -308) (by decide +kernel) (by decide +kernel) (by decide +kernel)
      (by decide +kernel)
  push_cast at error
  obtain ⟨z, answer, -, inside, large, -⟩ :=
    decadeBy_brackets (fun _ => -307.6526555685888) _ valid (error.trans (by norm_num))
  exact ⟨valid, error.trans (by norm_num), z, answer,
    inside (large (by decide +kernel)) (error.le.trans (by norm_num))⟩

/-- The least double and its logarithm. All powers up to `10 ^ (-309)` are zero, so that a price
below `10 ^ (-308)` can be in the decade `-309` only, and the answer is another one. -/
theorem not_brackets_least_double :
    isPrice 5e-324 ∧ logError (fun _ => -323.3062153431158) 5e-324 < 1 ∧
      decadeBy (fun _ => -323.3062153431158) 5e-324 = .ok (-323) ∧
      ¬ Brackets (-323) 5e-324 ∧ Brackets (-309) 5e-324 ∧
      ∀ z, -2 ^ 9 < z → z < 2 ^ 9 → Brackets z 5e-324 → z = -309 := by
  have valid : isPrice 5e-324 := by decide +kernel
  have error : logError (fun _ => -323.3062153431158) 5e-324 < (7 / 10 : ℚ) :=
    logError_lt (k := -324) (by decide +kernel) (by decide +kernel) (by decide +kernel)
      (by decide +kernel)
  push_cast at error
  have answer : decadeNear (floorInt32 (-323.3062153431158)) 5e-324 = -323 := by decide +kernel
  have decade : Brackets (-309) 5e-324 := by decide +kernel
  refine ⟨valid, error.trans (by norm_num), ?_, by decide +kernel, decade, fun z low high own => ?_⟩
  · rw [decadeBy, if_pos valid, answer]
  · exact own.unique valid decade ⟨low, by decide⟩ ⟨high, by decide⟩

end PriceLadder.Binary64
