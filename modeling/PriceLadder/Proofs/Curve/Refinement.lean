import Mathlib.Data.BitVec
import PriceLadder.Proofs.Curve.Inverse
import PriceLadder.Proofs.Ladder.Settings

set_option autoImplicit false

namespace PriceLadder.Resolution

/-- Whether each tick of `coarse` is the tenth tick of `fine`, and the ticks around a price are
those of `fine`, rounded outwards to tenth ticks. -/
structure Refines (fine coarse : Resolution) : Prop where
  price {tick : Int32} {price : Price} : fine.exactPrice? (10 * tick.toInt64) = some price →
    coarse.exactPrice? tick.toInt64 = some price
  /-- A tenth of the lower tick, rounded down. -/
  lower {price : Price} {tick : Int64} : fine.exactTick? price .floor = some tick →
    ∃ coarseTick, coarse.exactTick? price .floor = some coarseTick ∧
      coarseTick.toInt = tick.toInt / 10
  /-- A tenth of the upper tick, rounded up. -/
  upper {price : Price} {tick : Int64} : fine.exactTick? price .ceil = some tick →
    ∃ coarseTick, coarse.exactTick? price .ceil = some coarseTick ∧
      coarseTick.toInt = -(-tick.toInt / 10)

theorem toInt_ten_mul (tick : Int32) : (10 * tick.toInt64).toInt = 10 * tick.toInt := by
  have low := tick.le_toInt
  have high := tick.toInt_lt
  have ten : (10 : Int64).toInt = 10 := rfl
  rw [Words.toInt_mul, ten, Int32.toInt_toInt64]
  · rw [ten, Int32.toInt_toInt64]
    omega
  · rw [ten, Int32.toInt_toInt64]
    omega

section

variable {fine coarse : Resolution} (finer : fine.exponent = coarse.exponent + 1)
include finer

theorem width_of_finer : fine.width = 10 * coarse.width := by
  rw [width_eq, width_eq, finer, Nat.pow_succ', Nat.mul_left_comm]

theorem decade_ten_mul (tick : Int) : fine.decade (10 * tick) = coarse.decade tick := by
  rw [decade, width_of_finer finer, Int.natCast_mul]
  exact Int.mul_ediv_mul_of_pos _ _ (by decide)

theorem offset_ten_mul (tick : Int) : fine.offset (10 * tick) = 10 * coarse.offset tick := by
  have rest : 10 * tick % (10 * coarse.width : Nat) = 10 * (tick % coarse.width) := by
    rw [Int.natCast_mul]
    exact Int.mul_emod_mul_of_pos _ _ (by decide)
  rw [offset, width_of_finer finer, rest, offset]
  omega

section

variable {tick : Int} (addressable : fine.Addressable (10 * tick))
include addressable

theorem addressable_of_finer : coarse.Addressable tick := by
  unfold Addressable stepExponent at *
  rw [decade_ten_mul finer] at addressable
  omega

theorem gap_eq_ten_mul_gap : coarse.gap tick = 10 * fine.gap (10 * tick) := by
  unfold Addressable stepExponent at addressable
  rw [decade_ten_mul finer] at addressable
  rw [gap, gap, decade_ten_mul finer, ← Nat.pow_succ']
  congr 1
  unfold stepExponent
  omega

theorem curve_ten_mul : fine.curve (10 * tick) = coarse.curve tick := by
  rw [curve, curve, decade_ten_mul finer, offset_ten_mul finer,
    gap_eq_ten_mul_gap finer addressable, Nat.mul_left_comm, Nat.mul_assoc]

end

section

variable {atoms : Nat} (enough : 10 ^ fine.exponent ≤ atoms)
include enough

theorem pow_exponent_le_of_finer : 10 ^ coarse.exponent ≤ atoms :=
  Nat.le_trans (Nat.pow_le_pow_right (by decide) (by omega)) enough

theorem le_tickAt_floor_iff_ten_mul {tick : Int} (addressable : fine.Addressable (10 * tick)) :
    tick ≤ coarse.tickAt .floor atoms ↔ 10 * tick ≤ fine.tickAt .floor atoms := by
  rw [← curve_le_iff_le_tickAt_floor (pow_exponent_le_of_finer finer enough)
      (addressable_of_finer finer addressable),
    ← curve_le_iff_le_tickAt_floor enough addressable, curve_ten_mul finer addressable]

theorem tickAt_ceil_le_iff_ten_mul {tick : Int} (addressable : fine.Addressable (10 * tick)) :
    coarse.tickAt .ceil atoms ≤ tick ↔ fine.tickAt .ceil atoms ≤ 10 * tick := by
  rw [← le_curve_iff_tickAt_ceil_le (pow_exponent_le_of_finer finer enough)
      (addressable_of_finer finer addressable),
    ← le_curve_iff_tickAt_ceil_le enough addressable, curve_ten_mul finer addressable]

/-- The tick below a price has a tenth tick: both resolutions have a step in its decade. -/
theorem addressable_ten_mul_tickAt_floor :
    fine.Addressable (10 * coarse.tickAt .floor atoms) := by
  have exponent := exponent_le_log enough
  unfold Addressable stepExponent
  rw [decade_ten_mul finer, tickAt_floor,
    decade_tickBelow (pow_exponent_le_of_finer finer enough)]
  omega

theorem tickAt_floor_of_finer :
    coarse.tickAt .floor atoms = fine.tickAt .floor atoms / 10 := by
  have own := addressable_ten_mul_tickAt_floor finer enough
  have below := (le_tickAt_floor_iff_ten_mul finer enough own).1 (Int.le_refl _)
  have last : fine.Addressable (10 * (fine.tickAt .floor atoms / 10)) := own.mono (by omega)
  have above := (le_tickAt_floor_iff_ten_mul finer enough last).2 (by omega)
  omega

theorem tickAt_ceil_of_finer :
    coarse.tickAt .ceil atoms = -(-fine.tickAt .ceil atoms / 10) := by
  have around := coarse.tickAt_between .ceil atoms
  have own : fine.Addressable (10 * coarse.tickAt .ceil atoms) :=
    (addressable_ten_mul_tickAt_floor finer enough).mono (by omega)
  have above := (tickAt_ceil_le_iff_ten_mul finer enough own).1 (Int.le_refl _)
  have fineAround := fine.tickAt_between .ceil atoms
  have first : fine.Addressable (10 * -(-fine.tickAt .ceil atoms / 10)) :=
    (addressable_tickBelow enough).mono (by rw [← tickAt_floor]; omega)
  have below := (tickAt_ceil_le_iff_ten_mul finer enough first).2 (by omega)
  omega

end

theorem exists_exactTick?_of_finer {price : Price} {rounding : Rounding} {tick : Int64}
    (found : fine.exactTick? price rounding = some tick) : ∃ coarseTick,
      coarse.exactTick? price rounding = some coarseTick ∧
      coarseTick.toInt = coarse.tickAt rounding price.atoms.toNat := by
  have enough := pow_exponent_le_of_exactTick? found
  exact coarse.exists_exactTick? rounding (pow_exponent_le_of_finer finer enough)

theorem decadeOfTick_ten_mul (tick : Int32) :
    fine.decadeOfTick (10 * tick.toInt64) = coarse.decadeOfTick tick.toInt64 := by
  rw [decadeOfTick, toInt_ten_mul, ← decade, decade_ten_mul finer, decadeOfTick,
    Int32.toInt_toInt64, decade]

theorem place_ten_mul (tick : Int32) : fine.place (10 * tick.toInt64) = 10 * tick.toInt := by
  have faithful : (fine.decadeOfTick (10 * tick.toInt64)).toInt =
      fine.decade (10 * tick.toInt64).toInt := by
    rw [decadeOfTick_ten_mul finer, toInt_ten_mul, decade_ten_mul finer, decadeOfTick_toInt64]
  rw [fine.place_eq_toInt faithful, toInt_ten_mul]

theorem exactPrice?_of_finer {tick : Int32} {price : Price}
    (priced : fine.exactPrice? (10 * tick.toInt64) = some price) :
    coarse.exactPrice? tick.toInt64 = some price := by
  rw [exactPrice?_eq_some_iff_place, place_ten_mul finer] at priced
  rw [exactPrice?_eq_some_iff_place, place_toInt64]
  obtain ⟨addressable, atoms⟩ := priced
  exact ⟨addressable_of_finer finer addressable, atoms.trans (curve_ten_mul finer addressable)⟩

theorem refines_of_finer : fine.Refines coarse where
  price priced := exactPrice?_of_finer finer priced
  lower {price tick} found := by
    obtain ⟨enough, tick_eq⟩ := fine.exactTick?_eq_some_iff.1 found
    obtain ⟨coarseTick, coarseFound, coarseTick_eq⟩ := exists_exactTick?_of_finer finer found
    refine ⟨coarseTick, coarseFound, ?_⟩
    rw [coarseTick_eq, tickAt_floor_of_finer finer enough, tick_eq]
  upper {price tick} found := by
    obtain ⟨enough, tick_eq⟩ := fine.exactTick?_eq_some_iff.1 found
    obtain ⟨coarseTick, coarseFound, coarseTick_eq⟩ := exists_exactTick?_of_finer finer found
    refine ⟨coarseTick, coarseFound, ?_⟩
    rw [coarseTick_eq, tickAt_ceil_of_finer finer enough, tick_eq]

end

/-- Of the eight resolutions, each refines the one before it. -/
theorem ofWidth_refines {k : Nat} (low : 1 ≤ k) (high : k ≤ 7) : ∃ coarse fine,
    ofWidth (Int32.ofNat (9 * 10 ^ k)) = .ok coarse ∧
    ofWidth (Int32.ofNat (9 * 10 ^ (k + 1))) = .ok fine ∧ fine.Refines coarse := by
  let coarse : Resolution := ⟨k, low, by omega⟩
  let fine : Resolution := ⟨k + 1, by omega, by omega⟩
  exact ⟨coarse, fine, ofWidth_eq_ok_iff.2 coarse.toInt_ofNat_width.symm,
    ofWidth_eq_ok_iff.2 fine.toInt_ofNat_width.symm, refines_of_finer rfl⟩

/-- Below zero the tick between two tenth ticks is rounded away from zero for the lower one, and
towards zero for the upper one. -/
theorem ofWidth_refines_below_zero : ∃ fine, ofWidth 90000000 = .ok fine ∧
    fine.Refines standard ∧
    fine.exactPrice? (-20) = some ⟨9999998 * 10 ^ 17⟩ ∧
    standard.exactPrice? (-2) = some ⟨9999998 * 10 ^ 17⟩ ∧
    fine.exactTick? ⟨99999985 * 10 ^ 16⟩ .floor = some (-15) ∧
    fine.exactTick? ⟨99999985 * 10 ^ 16⟩ .ceil = some (-15) ∧
    standard.exactTick? ⟨99999985 * 10 ^ 16⟩ .floor = some (-2) ∧
    standard.exactTick? ⟨99999985 * 10 ^ 16⟩ .ceil = some (-1) := by
  obtain ⟨coarse, fine, coarseMade, fineMade, refines⟩ :=
    ofWidth_refines (show 1 ≤ 6 by decide) (show 6 ≤ 7 by decide)
  have coarse_eq : ofWidth (Int32.ofNat (9 * 10 ^ 6)) = .ok standard := by decide +kernel
  have fine_eq : ofWidth (Int32.ofNat (9 * 10 ^ 7)) = .ok ⟨7, by decide, by decide⟩ := by
    decide +kernel
  obtain rfl := Except.ok.inj (coarse_eq.symm.trans coarseMade)
  obtain rfl := Except.ok.inj (fine_eq.symm.trans fineMade)
  have priced : (⟨7, by decide, by decide⟩ : Resolution).exactPrice? (-20) =
      some ⟨9999998 * 10 ^ 17⟩ := by
    decide +kernel
  have tenth : 10 * (-2 : Int32).toInt64 = -20 := by decide
  have lower : (⟨7, by decide, by decide⟩ : Resolution).exactTick? ⟨99999985 * 10 ^ 16⟩ .floor =
      some (-15) := by
    decide +kernel
  have upper : (⟨7, by decide, by decide⟩ : Resolution).exactTick? ⟨99999985 * 10 ^ 16⟩ .ceil =
      some (-15) := by
    decide +kernel
  have sharedPrice := refines.price (tenth ▸ priced)
  obtain ⟨below, belowFound, below_eq⟩ := refines.lower lower
  obtain ⟨above, aboveFound, above_eq⟩ := refines.upper upper
  have belowTick : below = -2 := Int64.toInt_inj.1 (below_eq.trans (by decide))
  have aboveTick : above = -1 := Int64.toInt_inj.1 (above_eq.trans (by decide))
  rw [belowTick] at belowFound
  rw [aboveTick] at aboveFound
  exact ⟨_, fineMade, refines, priced, sharedPrice, lower, upper, belowFound, aboveFound⟩

end PriceLadder.Resolution
