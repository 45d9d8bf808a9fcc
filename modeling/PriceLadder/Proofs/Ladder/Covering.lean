import Mathlib.Data.BitVec
import PriceLadder.Proofs.Ladder.Bands
import PriceLadder.Proofs.Ladder.Policy

set_option autoImplicit false

namespace PriceLadder.Ladder

section

variable {l : Ladder} {price : Price} {rounding : Rounding} {tick other : Int32}
  (decoded : l.exactTick price rounding = .ok tick)
include decoded

theorem inBounds_exactTick : l.inBounds tick := by
  rcases exactTick_curve_cases decoded with ⟨-, -, -, inside, -⟩ | ⟨-, rfl⟩ | ⟨-, rfl⟩
  · exact inside
  · exact l.inBounds_minTick
  · exact l.inBounds_maxTick

/-- A tick that costs no more than a price is no higher than the tick of the price, by whatever
rounding. -/
theorem le_exactTick (inside : l.inBounds other)
    (cheap : l.resolution.curve other.toInt ≤ price.atoms.toNat) : other ≤ tick := by
  have position := l.inBounds_iff.1 inside
  have least := (l.curve_between inside).1
  rw [Int32.le_iff_toInt_le]
  rcases exactTick_curve_cases decoded with ⟨fine, -, -, -, onCurve⟩ | ⟨below, rfl⟩ | ⟨-, rfl⟩
  · have reached := (Resolution.curve_le_iff_le_tickAt_floor fine (l.addressable inside)).1 cheap
    have between := l.resolution.tickAt_between rounding price.atoms.toNat
    omega
  · omega
  · exact position.2

theorem exactTick_le (inside : l.inBounds other)
    (dear : price.atoms.toNat ≤ l.resolution.curve other.toInt) : tick ≤ other := by
  have position := l.inBounds_iff.1 inside
  have greatest := (l.curve_between inside).2
  rw [Int32.le_iff_toInt_le]
  rcases exactTick_curve_cases decoded with ⟨fine, -, -, -, onCurve⟩ | ⟨-, rfl⟩ | ⟨above, rfl⟩
  · have reached := (Resolution.le_curve_iff_tickAt_ceil_le fine (l.addressable inside)).1 dear
    have between := l.resolution.tickAt_between rounding price.atoms.toNat
    omega
  · exact position.1
  · omega

theorem exactTick_floor_le {lower : Price} {low : Int32}
    (lowDecoded : l.exactTick lower .floor = .ok low) (le : lower ≤ price) : low ≤ tick := by
  have inside := inBounds_exactTick lowDecoded
  rcases (le_exactTick_floor_iff lowDecoded inside).1 (Int32.le_refl low) with least | cheap
  · rw [least, Int32.le_iff_toInt_le]
    exact (l.inBounds_iff.1 (inBounds_exactTick decoded)).1
  · exact le_exactTick decoded inside (Nat.le_trans cheap (Price.le_iff_toNat_le.1 le))

theorem le_exactTick_ceil {upper : Price} {high : Int32}
    (highDecoded : l.exactTick upper .ceil = .ok high) (le : price ≤ upper) : tick ≤ high := by
  have inside := inBounds_exactTick highDecoded
  rcases (exactTick_ceil_le_iff highDecoded inside).1 (Int32.le_refl high) with greatest | dear
  · rw [greatest, Int32.le_iff_toInt_le]
    exact (l.inBounds_iff.1 (inBounds_exactTick decoded)).2
  · exact exactTick_le decoded inside (Nat.le_trans (Price.le_iff_toNat_le.1 le) dear)

end

section

variable {l : Ladder} {lower upper : Price} {spacing : Int32} {range : TickRange}
  (made : l.tickRange lower upper spacing = .ok range)
include made

/-- Whatever lies between the multiple under the lower end of a band and the one over the upper end
is moved into the range of the band. -/
theorem clampTick_mem_tickRange : ∃ least greatest low high, 0 < spacing ∧
    l.validBounds spacing = .ok (least, greatest) ∧
    l.exactTick lower .floor = .ok low ∧ l.exactTick upper .ceil = .ok high ∧
    ∀ word : Int64, multipleBelow spacing.toInt low.toInt ≤ word.toInt →
      word.toInt ≤ multipleAbove spacing.toInt high.toInt →
        clampTick least greatest word ∈ range := by
  obtain ⟨-, least, greatest, bounds, low, lowDecoded, high, highDecoded, start, finish, -⟩ :=
    (l.tickRange_eq_ok_iff lower upper spacing range).1 made
  obtain ⟨positive, outermost⟩ := l.validBounds_eq_ok_iff.1 bounds
  have ordered := Int32.le_iff_toInt_le.1 (outermost.least_le outermost.greatest_valid)
  refine ⟨least, greatest, low, high, positive, bounds, lowDecoded, highDecoded, ?_⟩
  intro word fromBelow toAbove
  constructor
  · rw [start, Int32.le_iff_toInt_le, toInt_clampTick ordered, toInt_clampTick ordered,
      toInt_snapDown_toInt64 low positive]
    omega
  · rw [finish, Int32.le_iff_toInt_le, toInt_clampTick ordered, toInt_clampTick ordered,
      toInt_snapUp_toInt64 high positive]
    omega

variable {price : Price} {rounding : Rounding} {tick : Int32} (low : lower ≤ price)
  (high : price ≤ upper)
include low high

theorem exists_exactTick_of_tickRange (rounding : Rounding) :
    ∃ tick, l.exactTick price rounding = .ok tick := by
  have hasRange := (l.exists_tickRange_iff lower upper spacing).1 ⟨range, made⟩
  rw [exists_exactTick_iff]
  constructor
  · exact Price.lt_of_lt_of_le hasRange.lower_pos low
  · intro policy
    obtain ⟨lowerSpanned, upperSpanned⟩ := hasRange.onLadder policy
    exact lowerSpanned.between upperSpanned low high

variable (decoded : l.exactTick price rounding = .ok tick)
include decoded

/-- The tick of a price of the band is moved into the range, with or without being moved to the
nearest multiple first. -/
theorem moved_exactTick_mem_tickRange : ∃ least greatest, 0 < spacing ∧
    l.validBounds spacing = .ok (least, greatest) ∧
    clampTick least greatest (snapNearest spacing.toInt64 tick.toInt64) ∈ range ∧
    clampTick least greatest tick.toInt64 ∈ range := by
  obtain ⟨least, greatest, first, last, positive, bounds, firstDecoded, lastDecoded, moved⟩ :=
    clampTick_mem_tickRange made
  have fromFirst := Int32.le_iff_toInt_le.1 (exactTick_floor_le decoded firstDecoded low)
  have toLast := Int32.le_iff_toInt_le.1 (le_exactTick_ceil decoded lastDecoded high)
  have step := Int32.lt_iff_toInt_lt.1 positive
  refine ⟨least, greatest, positive, bounds, ?_, ?_⟩
  · apply moved
    · rw [toInt_snapNearest_toInt64 tick positive]
      exact Int.le_trans (multipleBelow_mono step fromFirst)
        (multipleBelow_le_multipleNearest _ step)
    · rw [toInt_snapNearest_toInt64 tick positive]
      exact Int.le_trans (multipleNearest_le_multipleAbove _ step)
        (multipleAbove_mono step toLast)
  · apply moved
    · rw [Int32.toInt_toInt64]
      exact Int.le_trans (multipleBelow_le _ step) fromFirst
    · rw [Int32.toInt_toInt64]
      exact Int.le_trans toLast (le_multipleAbove _ step)

theorem exactTick_mem_tickRange (valid : l.Valid spacing tick) : tick ∈ range := by
  obtain ⟨least, greatest, -, bounds, -, moved⟩ :=
    moved_exactTick_mem_tickRange made low high decoded
  have outermost := (l.validBounds_eq_ok_iff.1 bounds).2
  have fromLeast := Int32.le_iff_toInt_le.1 (outermost.least_le valid)
  have toGreatest := Int32.le_iff_toInt_le.1 (outermost.le_greatest valid)
  have kept : clampTick least greatest tick.toInt64 = tick := by
    apply Int32.toInt_inj.1
    rw [toInt_clampTick (Int.le_trans fromLeast toGreatest), Int32.toInt_toInt64]
    omega
  rw [← kept]
  exact moved

end

/-- A range of valid ticks covers its band: each price of the band has a tick by every rounding, and
both the valid tick nearest to it and the tick itself, moved between the outermost valid ticks, are
in the range. -/
theorem tickRange_covers {l : Ladder} {lower upper : Price} {spacing : Int32} {range : TickRange}
    (made : l.tickRange lower upper spacing = .ok range) {price : Price} (low : lower ≤ price)
    (high : price ≤ upper) (rounding : Rounding) :
    ∃ tick, l.exactTick price rounding = .ok tick ∧
      (∃ closest, l.closestValidTick tick spacing = .ok closest ∧ range.contains closest) ∧
      ∃ least greatest, l.minValidTick spacing = .ok least ∧
        l.maxValidTick spacing = .ok greatest ∧ range.contains (max least (min tick greatest)) := by
  obtain ⟨tick, decoded⟩ := exists_exactTick_of_tickRange made low high rounding
  obtain ⟨least, greatest, positive, bounds, nearestMoved, moved⟩ :=
    moved_exactTick_mem_tickRange made low high decoded
  have outermost := (l.validBounds_eq_ok_iff.1 bounds).2
  rw [clampTick_toInt64 tick (outermost.least_le outermost.greatest_valid)] at moved
  refine ⟨tick, decoded, ⟨_, ?_, TickRange.contains_iff_mem.2 nearestMoved⟩, least, greatest, ?_,
    ?_, TickRange.contains_iff_mem.2 moved⟩
  · simp only [closestValidTick, bounds, bind, Except.bind]
  · rw [minValidTick, bounds]
    rfl
  · rw [maxValidTick, bounds]
    rfl

/-- Above the greatest price a clamping ladder has its greatest tick, which is no multiple of seven
here. -/
theorem tickRange_covers_fringe :
    (Ladder.standard.withPolicy .clamp).tickRange ⟨5 * 10 ^ 61⟩ ⟨10 ^ 64⟩ 7 =
        .ok ⟨336999999, 341999994⟩ ∧
      (⟨5 * 10 ^ 61⟩ : Price) ≤ ⟨2 * 10 ^ 63⟩ ∧ (⟨2 * 10 ^ 63⟩ : Price) ≤ ⟨10 ^ 64⟩ ∧
      ∃ tick, (Ladder.standard.withPolicy .clamp).exactTick ⟨2 * 10 ^ 63⟩ .nearest = .ok tick ∧
        ∃ closest, (Ladder.standard.withPolicy .clamp).closestValidTick tick 7 = .ok closest ∧
          TickRange.contains ⟨336999999, 341999994⟩ closest := by
  have made : (Ladder.standard.withPolicy .clamp).tickRange ⟨5 * 10 ^ 61⟩ ⟨10 ^ 64⟩ 7 =
      .ok ⟨336999999, 341999994⟩ := by decide +kernel
  have low : (⟨5 * 10 ^ 61⟩ : Price) ≤ ⟨2 * 10 ^ 63⟩ := by decide +kernel
  have high : (⟨2 * 10 ^ 63⟩ : Price) ≤ ⟨10 ^ 64⟩ := by decide +kernel
  obtain ⟨tick, decoded, nearest, -⟩ := tickRange_covers made low high .nearest
  exact ⟨made, low, high, tick, decoded, nearest⟩

end PriceLadder.Ladder
