import Mathlib.Algebra.Order.Floor.Ring
import Mathlib.Data.Rat.Floor
import PriceLadder.Proofs.Curve.Inverse

set_option autoImplicit false

namespace PriceLadder

namespace Rounding

/-- The whole number that a rounding makes of an exact one; halfway, the upper one is nearest. -/
def whole (rounding : Rounding) (x : ℚ) : ℤ :=
  match rounding with
  | .nearest => ⌊x + 1 / 2⌋
  | .floor => ⌊x⌋
  | .ceil => ⌈x⌉

theorem whole_div (rounding : Rounding) (height : Nat) {step : Nat} (positive : 0 < step) :
    rounding.whole ((height : ℚ) / step) =
      (height / step : Nat) + if rounding.GoesUp (height % step) step then 1 else 0 := by
  have stepPos : (0 : ℚ) < step := by exact_mod_cast positive
  have division : (height : ℚ) = step * (height / step : Nat) + (height % step : Nat) := by
    exact_mod_cast (Nat.div_add_mod height step).symm
  have rest_lt : ((height % step : Nat) : ℚ) < step := by exact_mod_cast Nat.mod_lt height positive
  generalize height / step = quotient at division ⊢
  generalize height % step = rest at division rest_lt ⊢
  have split : (height : ℚ) / step = quotient + (rest : ℚ) / step := by
    rw [division, add_div, mul_div_cancel_left₀ _ stepPos.ne']
  have nonneg : (0 : ℚ) ≤ rest / step := by positivity
  have small : (rest : ℚ) / step < 1 := (div_lt_one stepPos).2 rest_lt
  have half : (1 : ℚ) / 2 ≤ rest / step ↔ step ≤ 2 * rest := by
    rw [div_le_div_iff₀ two_pos stepPos, one_mul, mul_comm]
    exact_mod_cast Iff.rfl
  have missed : (0 : ℚ) < rest / step ↔ 0 < rest := by
    rw [div_pos_iff_of_pos_right stepPos, Nat.cast_pos]
  rw [split]
  by_cases up : rounding.GoesUp rest step
  · rw [if_pos up]
    cases rounding with
    | nearest =>
      have reached := half.2 up
      exact Int.floor_eq_iff.2 ⟨by push_cast; linarith, by push_cast; linarith⟩
    | floor => exact up.elim
    | ceil =>
      have above := missed.2 up
      exact Int.ceil_eq_iff.2 ⟨by push_cast; linarith, by push_cast; linarith⟩
  · rw [if_neg up]
    cases rounding with
    | nearest =>
      have below := not_le.1 (mt half.1 up)
      exact Int.floor_eq_iff.2 ⟨by push_cast; linarith, by push_cast; linarith⟩
    | floor => exact Int.floor_eq_iff.2 ⟨by push_cast; linarith, by push_cast; linarith⟩
    | ceil =>
      have level := not_lt.1 (mt missed.1 up)
      exact Int.ceil_eq_iff.2 ⟨by push_cast; linarith, by push_cast; linarith⟩

end Rounding

namespace Resolution

/-- The steps from the lowest price of its decade to a price, as an exact number. -/
def exactSteps (r : Resolution) (atoms : Nat) : ℚ :=
  ((atoms : ℚ) - 10 ^ Nat.log 10 atoms) / 10 ^ (Nat.log 10 atoms - r.exponent)

/-- Whether `base` and `step` are the lowest price of a price's decade and the step there, and what
is computed from them fits where it is kept: no difference is below zero, and the decade and the
quotient are those of the words that they are narrowed to. -/
structure Divides (r : Resolution) (price : Price) (base step : Atoms) : Prop where
  base_eq : Atoms.pow10? (baseExponent (Nat.log 10 price.atoms.toNat - Price.decimals)) = some base
  step_eq : Atoms.pow10? (r.stepExponent (Nat.log 10 price.atoms.toNat - Price.decimals)) =
    some step
  base_le : base ≤ price.atoms
  rest_lt : (price.atoms - base) % step < step
  quotient_lt : ((price.atoms - base) / step).toNat < r.width
  quotient_eq : (Int64.ofNat ((price.atoms - base) / step).toNat).toInt =
    ((price.atoms - base) / step).toNat
  start_eq : (r.decadeStart (Int32.ofInt (Nat.log 10 price.atoms.toNat - Price.decimals))).toInt =
    (Nat.log 10 price.atoms.toNat - Price.decimals : Int) * r.width

section

variable {r : Resolution} {price : Price} (fine : 10 ^ r.exponent ≤ price.atoms.toNat)
include fine

theorem exactSteps_eq : r.exactSteps price.atoms.toNat =
    (price.atoms.toNat - 10 ^ Nat.log 10 price.atoms.toNat : Nat) /
      (r.gap (r.tickBelow price.atoms.toNat) : ℚ) := by
  rw [exactSteps, gap_tickBelow fine]
  push_cast [pow_log_le fine]
  rfl

theorem tickAt_eq_add_whole (rounding : Rounding) :
    r.tickAt rounding price.atoms.toNat =
      (Nat.log 10 price.atoms.toNat - Price.decimals : Int) * r.width +
        rounding.whole (r.exactSteps price.atoms.toNat) := by
  have quotient : (price.atoms.toNat - 10 ^ Nat.log 10 price.atoms.toNat) /
      r.gap (r.tickBelow price.atoms.toNat) = r.stepsBelow price.atoms.toNat := by
    rw [gap_tickBelow fine, stepsBelow]
  rw [exactSteps_eq fine, rounding.whole_div _ (r.gap_pos _), quotient, ← sub_curve_tickBelow fine,
    tickAt, tickBelow]
  split <;> omega

theorem whole_exactSteps_bounds (rounding : Rounding) :
    0 ≤ rounding.whole (r.exactSteps price.atoms.toNat) ∧
      rounding.whole (r.exactSteps price.atoms.toNat) ≤ r.width := by
  have small := stepsBelow_lt_width fine
  rw [exactSteps_eq fine, rounding.whole_div _ (r.gap_pos _), gap_tickBelow fine, ← stepsBelow]
  split <;> omega

theorem exists_divides (rounding : Rounding) : ∃ base step, r.Divides price base step ∧
    (rounding.steps (price.atoms - base) step).toInt =
      rounding.whole (r.exactSteps price.atoms.toNat) := by
  have gap_pos := r.gap_pos (r.tickBelow price.atoms.toNat)
  obtain ⟨base, step, base_eq, step_eq, base_le, height_eq, quotient⟩ := exists_base_step fine
  have small := stepsBelow_lt_width fine
  have width := r.width_le
  refine ⟨base, step, ⟨pow10?_baseExponent_log base_eq,
    pow10?_stepExponent_log fine (step_eq.trans (gap_tickBelow fine)), base_le, ?_, ?_, ?_,
    r.decadeStart_toInt (Atoms.log_le_greatestExponent price.atoms)⟩, ?_⟩
  · rw [BitVec.lt_def, BitVec.toNat_umod, step_eq]
    exact Nat.mod_lt _ gap_pos
  · rw [BitVec.toNat_udiv, quotient]
    exact small
  · rw [BitVec.toNat_udiv, quotient, Int64.toInt_ofNat_of_lt (by omega)]
  · rw [exactSteps_eq fine, rounding.whole_div _ gap_pos, ← height_eq, ← step_eq]
    apply rounding.toInt_steps
    · rw [step_eq]
      exact gap_pos
    · rw [quotient]
      omega

end

theorem exactTick?_eq_none_iff {r : Resolution} {price : Price} {rounding : Rounding} :
    r.exactTick? price rounding = none ↔ price.atoms.toNat < 10 ^ r.exponent := by
  constructor
  · intro missing
    refine Nat.not_le.1 fun fine => ?_
    obtain ⟨tick, found, -⟩ := r.exists_exactTick? rounding fine
    cases missing.symm.trans found
  · intro small
    cases found : r.exactTick? price rounding with
    | none => rfl
    | some tick => exact absurd (pow_exponent_le_of_exactTick? found) (Nat.not_le.2 small)

/-- A price has no tick exactly if it is below `10 ^ k` atoms. The tick of any other price is the
first one of its decade and the exact number of steps from there, rounded, which no word on the way
is too small for. -/
theorem exactTick?_divides (r : Resolution) (price : Price) (rounding : Rounding) :
    (r.exactTick? price rounding = none ↔ price.atoms.toNat < 10 ^ r.exponent) ∧
    (10 ^ r.exponent ≤ price.atoms.toNat → ∃ base step tick, r.Divides price base step ∧
      (rounding.steps (price.atoms - base) step).toInt =
        rounding.whole (r.exactSteps price.atoms.toNat) ∧
      r.exactTick? price rounding = some tick ∧
      tick.toInt = (Nat.log 10 price.atoms.toNat - Price.decimals : Int) * r.width +
        rounding.whole (r.exactSteps price.atoms.toNat) ∧
      0 ≤ rounding.whole (r.exactSteps price.atoms.toNat) ∧
      rounding.whole (r.exactSteps price.atoms.toNat) ≤ r.width) := by
  refine ⟨exactTick?_eq_none_iff, fun fine => ?_⟩
  obtain ⟨base, step, divides, steps⟩ := exists_divides fine rounding
  obtain ⟨tick, found, value⟩ := r.exists_exactTick? rounding fine
  exact ⟨base, step, tick, divides, steps, found, value.trans (tickAt_eq_add_whole fine rounding),
    whole_exactSteps_bounds fine rounding⟩

end Resolution

end PriceLadder
