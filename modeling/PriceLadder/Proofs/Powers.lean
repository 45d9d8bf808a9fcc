import Mathlib.Algebra.Order.Ring.Rat
import Mathlib.Tactic.Positivity

set_option autoImplicit false

namespace PriceLadder.Powers

/-- A power is a fraction of two powers with natural exponents, one of which is zero. -/
theorem zpow_mul_pow {b : ℚ} (nonzero : b ≠ 0) (e : Int) :
    b ^ e * b ^ (-e).toNat = b ^ e.toNat := by
  rw [← zpow_natCast, ← zpow_natCast, ← zpow_add₀ nonzero]
  congr 1
  omega

theorem natCast_eq_mul_zpow_iff {a n : Nat} {e : Int} : (a : ℚ) = n * 10 ^ e ↔
    a * 10 ^ (-e).toNat = n * 10 ^ e.toNat := by
  have positive : (10 : ℚ) ^ (-e).toNat ≠ 0 := by positivity
  rw [← mul_left_inj' positive, mul_assoc, zpow_mul_pow (by decide)]
  norm_cast

end PriceLadder.Powers
