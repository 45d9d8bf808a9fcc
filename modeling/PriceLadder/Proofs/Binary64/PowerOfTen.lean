import PriceLadder.Binary64.PowerOfTen
import PriceLadder.Proofs.Binary64.Value

set_option autoImplicit false

namespace PriceLadder.Binary64

/-- Whether a double is off from `10 ^ e` by at most one part in `10 ^ 13`. -/
structure Near (x : Float) (e : Int) : Prop where
  nonneg : Nonneg x.toModel.unpack
  low : (1 - 1 / 10 ^ 13) * 10 ^ e ≤ value x
  high : value x ≤ (1 + 1 / 10 ^ 13) * 10 ^ e

def isNear (x : Float) (e : Int) : Bool :=
  match x.toModel.unpack with
  | .finite .positive m p _ =>
    let own := m * 2 ^ p.toNat * 10 ^ (-e).toNat
    let power := 10 ^ e.toNat * 2 ^ (-p).toNat
    10 ^ 13 * power ≤ 10 ^ 13 * own + power && 10 ^ 13 * own ≤ 10 ^ 13 * power + power
  | _ => false

theorem near_of_isNear {x : Float} {e : Int} (tested : isNear x e) : Near x e := by
  unfold isNear at tested
  split at tested
  · next m p positive unpacked =>
    rw [Bool.and_eq_true, decide_eq_true_iff, decide_eq_true_iff] at tested
    -- Both sides of the test are scaled by the denominators of the two powers.
    have unit : (0 : ℚ) < 2 ^ (-p).toNat * 10 ^ (-e).toNat := by positivity
    have own : value x * (2 ^ (-p).toNat * 10 ^ (-e).toNat) =
        (m * 2 ^ p.toNat * 10 ^ (-e).toNat : Nat) := by
      rw [value, unpacked, valueOf_finite, Nat.cast_mul, Nat.cast_mul, Nat.cast_pow, Nat.cast_pow,
        Nat.cast_ofNat, Nat.cast_ofNat, ← Powers.zpow_mul_pow two_ne_zero p]
      ring
    have power : (10 : ℚ) ^ e * (2 ^ (-p).toNat * 10 ^ (-e).toNat) =
        (10 ^ e.toNat * 2 ^ (-p).toNat : Nat) := by
      rw [Nat.cast_mul, Nat.cast_pow, Nat.cast_pow, Nat.cast_ofNat, Nat.cast_ofNat,
        ← Powers.zpow_mul_pow (b := 10) (by decide) e]
      ring
    generalize m * 2 ^ p.toNat * 10 ^ (-e).toNat = scaled at tested own
    generalize 10 ^ e.toNat * 2 ^ (-p).toNat = scaledPower at tested power
    have low : 10 ^ 13 * (scaledPower : ℚ) ≤ 10 ^ 13 * scaled + scaledPower := by
      exact_mod_cast tested.1
    have high : 10 ^ 13 * (scaled : ℚ) ≤ 10 ^ 13 * scaledPower + scaledPower := by
      exact_mod_cast tested.2
    refine ⟨?_, le_of_mul_le_mul_right ?_ unit, le_of_mul_le_mul_right ?_ unit⟩
    · rw [unpacked]
      exact .finite positive
    · rw [mul_assoc, own, power]
      linarith
    · rw [mul_assoc, own, power]
      linarith
  · cases tested

/-- Whether a double and its reciprocal are near to `10 ^ n` and `10 ^ (-n)` or, where no finite
double is, infinite and zero. -/
def isPower (x : Float) (n : Nat) : Bool :=
  if n ≤ 308 then isNear x n && isNear (1 / x) (-n)
  else match x.toModel.unpack, (1 / x).toModel.unpack with
    | .infinity .positive, .zero _ => true
    | _, _ => false

/-- Whether the product is a power of ten for every exponent that has `known` as its lowest digits
and `digits` more, the next of which stands for `unit`. Exponents with the same lowest digits share
the products that these take. -/
def arePowers : (digits : Nat) → (state : Float × Float) → (known unit : Nat) → Bool
  | 0, state, known, _ => isPower state.1 known
  | digits + 1, state, known, unit =>
    arePowers digits (squareStep state false) known (2 * unit) &&
      arePowers digits (squareStep state true) (known + unit) (2 * unit)

theorem map_testBit_range_succ (n digits : Nat) : (List.range (digits + 1)).map n.testBit =
    n.testBit 0 :: (List.range digits).map (n / 2).testBit := by
  rw [List.range_succ_eq_map, List.map_cons, List.map_map]
  congr 2
  funext i
  exact Nat.testBit_succ n i

theorem isPower_of_arePowers {digits : Nat} {state : Float × Float} {known unit n : Nat}
    (checked : arePowers digits state known unit) (small : n < 2 ^ digits) :
    isPower (((List.range digits).map n.testBit).foldl squareStep state).1 (known + unit * n) := by
  -- Along the tree: the lowest digit of `n` picks the branch, and the others are those of `n / 2`.
  induction digits generalizing state known unit n with
  | zero =>
    obtain rfl : n = 0 := by omega
    exact checked
  | succ digits ih =>
    rw [arePowers, Bool.and_eq_true] at checked
    have half : n / 2 < 2 ^ digits := by omega
    rw [map_testBit_range_succ, List.foldl_cons]
    cases parity : n.testBit 0 with
    | false =>
      rw [Nat.testBit_zero, decide_eq_false_iff_not] at parity
      have total : 2 * unit * (n / 2) = unit * n := by
        rw [Nat.mul_comm 2, Nat.mul_assoc]
        congr 1
        omega
      rw [← total]
      exact ih checked.1 half
    | true =>
      rw [Nat.testBit_zero, decide_eq_true_iff] at parity
      have total : unit + 2 * unit * (n / 2) = unit * n := by
        rw [Nat.mul_comm 2, Nat.mul_assoc, Nat.add_comm, ← Nat.mul_succ]
        congr 1
        omega
      rw [← total, ← Nat.add_assoc]
      exact ih checked.2 half

/-- Digits above the highest one that is set do not count. -/
theorem squaredPow10_eq {n digits : Nat} (enough : n.log2 + 1 ≤ digits) :
    squaredPow10 n = (((List.range digits).map n.testBit).foldl squareStep (1, 10)).1 := by
  induction digits, enough using Nat.le_induction with
  | base => rfl
  | succ digits enough ih =>
    have above : n < 2 ^ digits := Nat.lt_log2_self.trans_le (Nat.pow_le_pow_right two_pos enough)
    rw [ih, List.range_succ, List.map_append, List.foldl_append, List.map_singleton,
      List.foldl_cons, List.foldl_nil, Nat.testBit_lt_two_pow above]
    rfl

theorem isPower_squaredPow10 {n : Nat} (small : n < 2 ^ 9) : isPower (squaredPow10 n) n := by
  have checked : arePowers 9 (1, 10) 0 1 = true := by decide +kernel
  have all := isPower_of_arePowers checked small
  have enough : n.log2 + 1 ≤ 9 := by
    by_cases zero : n = 0
    · subst zero
      decide
    · exact (Nat.log2_lt zero).2 small
  rwa [Nat.zero_add, Nat.one_mul, ← squaredPow10_eq enough] at all

theorem isNear_nearestPow10 {e : Int} (inside : exactRange e) : isNear (nearestPow10 e) e := by
  have checked : ((List.range 91).all fun i => isNear (nearestPow10 (i - 30)) (i - 30)) = true := by
    decide +kernel
  rw [exactRange, Bool.and_eq_true, decide_eq_true_iff, decide_eq_true_iff] at inside
  have place : ((e + 30).toNat : Int) - 30 = e := by omega
  have found := List.all_eq_true.1 checked (e + 30).toNat (List.mem_range.2 (by omega))
  rwa [place] at found

theorem near_pow10 {e : Int} (low : -308 ≤ e) (high : e ≤ 308) : Near (pow10 e) e := by
  refine near_of_isNear ?_
  unfold pow10
  split
  · next inside => exact isNear_nearestPow10 inside
  · have powers := isPower_squaredPow10 (n := e.natAbs) (by omega)
    rw [isPower, if_pos (by omega), Bool.and_eq_true] at powers
    split
    · next positive =>
      have same : (e.natAbs : Int) = e := by omega
      rw [same] at powers
      rw [show e.toNat = e.natAbs by omega]
      exact powers.1
    · next negative =>
      have same : -(e.natAbs : Int) = e := by omega
      rw [same] at powers
      exact powers.2

theorem not_exactRange {e : Int} (outside : e < -30 ∨ 60 < e) : ¬ exactRange e := by
  rw [exactRange, Bool.and_eq_true, decide_eq_true_iff, decide_eq_true_iff]
  omega

theorem unpack_squaredPow10 {n : Nat} (large : 308 < n) (small : n < 2 ^ 9) :
    (squaredPow10 n).toModel.unpack = .infinity .positive ∧
      ∃ sign, (1 / squaredPow10 n).toModel.unpack = .zero sign := by
  have power := isPower_squaredPow10 small
  rw [isPower, if_neg (by omega)] at power
  split at power
  · next infinite zero => exact ⟨infinite, _, zero⟩
  · cases power

theorem pow10_infinity {e : Int} (low : 308 < e) (high : e < 2 ^ 9) :
    (pow10 e).toModel.unpack = .infinity .positive := by
  rw [pow10, if_neg (not_exactRange (by omega)), if_pos (by omega)]
  exact (unpack_squaredPow10 (by omega) (by omega)).1

theorem pow10_zero {e : Int} (low : -2 ^ 9 < e) (high : e < -308) :
    ∃ sign, (pow10 e).toModel.unpack = .zero sign := by
  rw [pow10, if_neg (not_exactRange (by omega)), if_neg (by omega)]
  exact (unpack_squaredPow10 (by omega) (by omega)).2

section

variable {e : Int}

theorem value_pow10_infinity (low : 308 < e) (high : e < 2 ^ 9) :
    value (pow10 e) = 2 ^ 1024 := by
  rw [value, pow10_infinity low high, valueOf_infinity]

theorem value_pow10_zero (low : -2 ^ 9 < e) (high : e < -308) :
    value (pow10 e) = 0 := by
  obtain ⟨sign, zero⟩ := pow10_zero low high
  rw [value, zero, valueOf_zero]

theorem nonneg_pow10 (low : -2 ^ 9 < e) (high : e < 2 ^ 9) : Nonneg (pow10 e).toModel.unpack := by
  by_cases tiny : e < -308
  · obtain ⟨sign, zero⟩ := pow10_zero low tiny
    rw [zero]
    exact .zero sign
  by_cases huge : 308 < e
  · rw [pow10_infinity huge high]
    exact .infinity
  · exact (near_pow10 (by omega) (by omega)).nonneg

/-- The powers keep the order of their exponents, infinite and zero ones included. -/
theorem value_pow10_mono {d : Int} (low : -2 ^ 9 < d) (le : d ≤ e) (high : e < 2 ^ 9) :
    value (pow10 d) ≤ value (pow10 e) := by
  by_cases tiny : d < -308
  · rw [value_pow10_zero low tiny]
    exact (nonneg_pow10 (by omega) high).valueOf_nonneg
  by_cases huge : 308 < e
  · rw [value_pow10_infinity huge high]
    exact (nonneg_pow10 low (by omega)).valueOf_le (canonical_unpack _)
  rcases le.eq_or_lt with rfl | lt
  · exact le_rfl
  have scale : (0 : ℚ) < 10 ^ d := by positivity
  have step : (10 : ℚ) ^ (d + 1) ≤ 10 ^ e := zpow_le_zpow_right₀ (by decide) lt
  rw [zpow_add_one₀ (by decide)] at step
  calc value (pow10 d)
    _ ≤ (1 + 1 / 10 ^ 13) * 10 ^ d := (near_pow10 (by omega) (by omega)).high
    _ ≤ (1 - 1 / 10 ^ 13) * 10 ^ e := by linarith
    _ ≤ value (pow10 e) := (near_pow10 (by omega) (by omega)).low

end

end PriceLadder.Binary64
