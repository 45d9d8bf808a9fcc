import PriceLadder.Proofs.Ladder.Exact
import PriceLadder.Proofs.Ladder.Settings

set_option autoImplicit false

namespace PriceLadder

/-- Only the ratio of the rest to the step decides where a rounding goes. -/
theorem Rounding.goesUp_mul (rounding : Rounding) {factor : Nat} (positive : 0 < factor)
    (rest step : Nat) :
    rounding.GoesUp (factor * rest) (factor * step) ↔ rounding.GoesUp rest step := by
  cases rounding with
  | nearest =>
    change factor * step ≤ 2 * (factor * rest) ↔ step ≤ 2 * rest
    rw [Nat.mul_left_comm, Nat.mul_le_mul_left_iff positive]
  | floor => exact Iff.rfl
  | ceil =>
    change 0 < factor * rest ↔ 0 < rest
    exact Nat.mul_pos_iff_of_pos_left positive

namespace Resolution

theorem add_width_eq (r : Resolution) (tick : Int) :
    tick + r.width = (r.decade tick + 1) * r.width + r.offset tick := by
  have position := r.decade_mul_width_add_offset tick
  rw [Int.add_mul]
  omega

theorem decade_add_width (r : Resolution) (tick : Int) :
    r.decade (tick + r.width) = r.decade tick + 1 := by
  rw [add_width_eq, decade_eq r (r.offset_lt_width tick)]

theorem offset_add_width (r : Resolution) (tick : Int) :
    r.offset (tick + r.width) = r.offset tick := by
  rw [add_width_eq, offset_eq r (r.offset_lt_width tick)]

section

variable {r : Resolution} {tick : Int} (addressable : r.Addressable tick)
include addressable

theorem addressable_add_width : r.Addressable (tick + r.width) :=
  addressable.mono (by omega)

theorem gap_add_width : r.gap (tick + r.width) = 10 * r.gap tick :=
  gap_of_decade_eq_succ addressable (r.decade_add_width tick)

theorem curve_add_width : r.curve (tick + r.width) = 10 * r.curve tick := by
  rw [curve_eq_mul r (addressable_add_width addressable), offset_add_width,
    gap_add_width addressable, curve_eq_mul r addressable, Nat.mul_left_comm]

end

section

variable {r : Resolution} {atoms : Nat} (fine : 10 ^ r.exponent ≤ atoms)
include fine

theorem log_ten_mul : Nat.log 10 (10 * atoms) = Nat.log 10 atoms + 1 := by
  have nonzero : atoms ≠ 0 := Nat.ne_of_gt (Nat.lt_of_lt_of_le (Nat.pow_pos (by decide)) fine)
  rw [Nat.mul_comm, Nat.log_mul_base (by decide) nonzero]

theorem stepsBelow_ten_mul : r.stepsBelow (10 * atoms) = r.stepsBelow atoms := by
  have exponent := exponent_le_log fine
  have step : Nat.log 10 atoms + 1 - r.exponent = Nat.log 10 atoms - r.exponent + 1 := by omega
  rw [stepsBelow, log_ten_mul fine, step, Nat.pow_succ', Nat.pow_succ', ← Nat.mul_sub,
    Nat.mul_div_mul_left _ _ (by decide), stepsBelow]

theorem tickBelow_ten_mul : r.tickBelow (10 * atoms) = r.tickBelow atoms + r.width := by
  rw [tickBelow, log_ten_mul fine, stepsBelow_ten_mul fine, tickBelow]
  push_cast
  ring

/-- The tick of ten times a price is a decade higher, by every rounding: the logarithm grows by one,
the quotient stays, and the rest grows with the step. -/
theorem tickAt_ten_mul (rounding : Rounding) :
    r.tickAt rounding (10 * atoms) = r.tickAt rounding atoms + r.width := by
  have addressable := addressable_tickBelow fine
  rw [tickAt, tickBelow_ten_mul fine, curve_add_width addressable, ← Nat.mul_sub,
    gap_add_width addressable, tickAt]
  simp only [rounding.goesUp_mul (show 0 < 10 by decide)]
  split
  · omega
  · rfl

end

end Resolution

namespace Ladder

theorem toInt_decadeWidth (l : Ladder) : l.decadeWidth.toInt = l.resolution.width :=
  l.resolution.toInt_ofNat_width

/-- The ticks and prices of a ladder are alike from decade to decade. Of two ticks of the ladder
that are the width of a decade apart, the upper one has ten times the price of the lower one; of two
prices of the ladder, one ten times the other, the ticks are that width apart by every rounding. -/
theorem exactPrice_selfSimilar (l : Ladder) :
    (∀ tick higher : Int32, l.inBounds tick → l.inBounds higher →
      higher.toInt = tick.toInt + l.decadeWidth.toInt →
      ∃ own higherOwn, l.exactPrice tick = .ok own ∧ l.exactPrice higher = .ok higherOwn ∧
        higherOwn.atoms.toNat = 10 * own.atoms.toNat) ∧
    ∀ price tenfold : Price, l.Spans price → l.Spans tenfold →
      tenfold.atoms.toNat = 10 * price.atoms.toNat →
      ∀ rounding, ∃ tick higher, l.exactTick price rounding = .ok tick ∧
        l.exactTick tenfold rounding = .ok higher ∧
        higher.toInt = tick.toInt + l.decadeWidth.toInt := by
  rw [toInt_decadeWidth]
  constructor
  · intro tick higher inside higherInside above
    obtain ⟨own, encoded, own_eq⟩ := l.exists_exactPrice inside
    obtain ⟨higherOwn, higherEncoded, higherOwn_eq⟩ := l.exists_exactPrice higherInside
    refine ⟨own, higherOwn, encoded, higherEncoded, ?_⟩
    rw [higherOwn_eq, above, Resolution.curve_add_width (l.addressable inside), own_eq]
  · intro price tenfold spanned tenfoldSpanned tenTimes rounding
    obtain ⟨least, greatest, lowest, highest, low, high⟩ := spanned
    obtain ⟨tenfoldLow, tenfoldHigh⟩ := (spans_iff lowest highest).1 tenfoldSpanned
    obtain ⟨tick, decoded, -, onCurve⟩ := exists_exactTick rounding lowest highest low high
    obtain ⟨higher, higherDecoded, -, higherOnCurve⟩ :=
      exists_exactTick rounding lowest highest tenfoldLow tenfoldHigh
    refine ⟨tick, higher, decoded, higherDecoded, ?_⟩
    rw [higherOnCurve, tenTimes, Resolution.tickAt_ten_mul (pow_exponent_le_of_le lowest low),
      onCurve]

/-- Halfway between the last two ticks below one, and between the last two below ten. -/
theorem exactPrice_selfSimilar_halfway :
    Ladder.standard.Spans ⟨99999985 * 10 ^ 16⟩ ∧ Ladder.standard.Spans ⟨99999985 * 10 ^ 17⟩ ∧
    Ladder.standard.exactTick ⟨99999985 * 10 ^ 16⟩ .nearest = .ok (-1) ∧
    Ladder.standard.exactTick ⟨99999985 * 10 ^ 17⟩ .nearest = .ok 8999999 := by
  have spanned : Ladder.standard.Spans ⟨99999985 * 10 ^ 16⟩ :=
    spans_standard_iff.2 (by decide +kernel)
  have tenfoldSpanned : Ladder.standard.Spans ⟨99999985 * 10 ^ 17⟩ :=
    spans_standard_iff.2 (by decide +kernel)
  have found : Ladder.standard.exactTick ⟨99999985 * 10 ^ 16⟩ .nearest = .ok (-1) := by
    decide +kernel
  obtain ⟨tick, higher, decoded, higherDecoded, above⟩ := Ladder.standard.exactPrice_selfSimilar.2
    _ _ spanned tenfoldSpanned (by decide +kernel) .nearest
  rw [found] at decoded
  obtain rfl := Except.ok.inj decoded
  have same : higher = 8999999 := by
    rw [← Int32.toInt_inj, above]
    decide
  rw [same] at higherDecoded
  exact ⟨spanned, tenfoldSpanned, found, higherDecoded⟩

end Ladder

end PriceLadder
