import PriceLadder.Proofs.Ladder.Grid

set_option autoImplicit false

namespace PriceLadder

/-- Whether the words on the way from a tick down to a multiple hold the numbers they stand for. -/
structure SnapsDown (spacing tick : Int64) : Prop where
  count : (Int64.ofInt (tick.toInt / spacing.toInt)).toInt = tick.toInt / spacing.toInt
  multiple : (snapDown spacing tick).toInt = multipleBelow spacing.toInt tick.toInt

structure SnapsUp (spacing tick : Int64) : Prop where
  mirrored : (-tick).toInt = -tick.toInt
  down : SnapsDown spacing (-tick)
  multiple : (snapUp spacing tick).toInt = multipleAbove spacing.toInt tick.toInt

structure SnapsNearest (spacing tick : Int64) : Prop where
  half : (spacing / 2).toInt = spacing.toInt / 2
  moved : (tick + spacing / 2).toInt = tick.toInt + spacing.toInt / 2
  down : SnapsDown spacing (tick + spacing / 2)

section

variable {spacing : Int32} (tick : Int32) (positive : 0 < spacing)
include positive

theorem toInt64_pos : 0 < spacing.toInt64.toInt := by
  rw [Int32.toInt_toInt64]
  exact Int32.lt_iff_toInt_lt.1 positive

theorem snapsDown_toInt64 : SnapsDown spacing.toInt64 tick.toInt64 := by
  refine ⟨toInt_ofInt_ediv _ (toInt64_pos positive), ?_⟩
  rw [toInt_snapDown_toInt64 tick positive, Int32.toInt_toInt64, Int32.toInt_toInt64]

theorem snapsUp_toInt64 : SnapsUp spacing.toInt64 tick.toInt64 := by
  have low := tick.le_toInt
  have high := tick.toInt_lt
  have small := spacing.toInt_lt
  have mirrored : (-tick.toInt64).toInt = -tick.toInt64.toInt := by
    rw [Words.toInt_neg]
    rw [Int32.toInt_toInt64]
    omega
  refine ⟨mirrored, ⟨toInt_ofInt_ediv _ (toInt64_pos positive), ?_⟩, ?_⟩
  · rw [toInt_snapDown (toInt64_pos positive)]
    rw [mirrored, Int32.toInt_toInt64, Int32.toInt_toInt64]
    omega
  · rw [toInt_snapUp_toInt64 tick positive, Int32.toInt_toInt64, Int32.toInt_toInt64]

theorem snapsNearest_toInt64 : SnapsNearest spacing.toInt64 tick.toInt64 := by
  have low := tick.le_toInt
  have small := spacing.toInt_lt
  have half := toInt_half positive
  have moved := toInt_add_half tick positive
  refine ⟨?_, ?_, toInt_ofInt_ediv _ (toInt64_pos positive), ?_⟩
  · rw [half, Int32.toInt_toInt64]
  · rw [moved, Int32.toInt_toInt64, Int32.toInt_toInt64]
  · rw [toInt_snapDown (toInt64_pos positive)]
    rw [moved, Int32.toInt_toInt64]
    omega

end

namespace Ladder

/-- Whether `closest` is the valid tick closest to `tick`, the upper one of two equally close. -/
structure ClosestValid (l : Ladder) (spacing tick closest : Int32) : Prop where
  valid : l.Valid spacing closest
  nearer {other : Int32} : l.Valid spacing other →
    (closest.toInt - tick.toInt).natAbs < (other.toInt - tick.toInt).natAbs ∨
      (closest.toInt - tick.toInt).natAbs = (other.toInt - tick.toInt).natAbs ∧ other ≤ closest

structure NoValidTick (l : Ladder) (tick spacing : Int32) (reason : Error) : Prop where
  least : l.minValidTick spacing = .error reason
  greatest : l.maxValidTick spacing = .error reason
  closest : l.closestValidTick tick spacing = .error reason

/-- The ticks that are found with a spacing, as the whole numbers that their words stand for. -/
structure ValidTicks (l : Ladder) (tick spacing least greatest closest : Int32) : Prop where
  least_found : l.minValidTick spacing = .ok least
  greatest_found : l.maxValidTick spacing = .ok greatest
  closest_found : l.closestValidTick tick spacing = .ok closest
  least_eq : least.toInt = multipleAbove spacing.toInt l.minTick.toInt
  greatest_eq : greatest.toInt = multipleBelow spacing.toInt l.maxTick.toInt
  closest_eq : closest.toInt =
    max least.toInt (min (multipleNearest spacing.toInt tick.toInt) greatest.toInt)

section

variable {l : Ladder} {spacing : Int32}

theorem noValidTick {reason : Error} (failed : l.validBounds spacing = .error reason)
    (tick : Int32) : l.NoValidTick tick spacing reason := by
  constructor
  · rw [minValidTick, failed]
    rfl
  · rw [maxValidTick, failed]
    rfl
  · rw [closestValidTick, failed]
    rfl

variable {least greatest : Int32} (outermost : l.OutermostValid spacing least greatest)
  (positive : 0 < spacing)
include outermost positive

theorem toInt_kept (tick : Int32) :
    (clampTick least greatest (snapNearest spacing.toInt64 tick.toInt64)).toInt =
      max least.toInt (min (multipleNearest spacing.toInt tick.toInt) greatest.toInt) := by
  have ordered := Int32.le_iff_toInt_le.1 (outermost.least_le outermost.greatest_valid)
  rw [toInt_clampTick ordered, toInt_snapNearest_toInt64 tick positive]

theorem closestValid_kept (tick : Int32) : l.ClosestValid spacing tick
    (clampTick least greatest (snapNearest spacing.toInt64 tick.toInt64)) := by
  constructor
  · apply outermost.valid_clampTick
    rw [toInt_snapNearest_toInt64 tick positive]
    exact dvd_multipleBelow
  · intro other valid
    rw [Int32.le_iff_toInt_le, toInt_kept outermost positive tick]
    apply natAbs_kept_multipleNearest
    · exact Int32.lt_iff_toInt_lt.1 positive
    · exact outermost.least_valid.2
    · exact outermost.greatest_valid.2
    · exact valid.2
    · exact Int32.le_iff_toInt_le.1 (outermost.least_le valid)
    · exact Int32.le_iff_toInt_le.1 (outermost.le_greatest valid)

end

/-- With a spacing that is not positive, or no multiple of it on the ladder, there is no valid tick
to be found. Otherwise the least, the greatest and the closest valid tick are found, and all words
on the way hold the numbers they stand for, whatever the tick, the spacing and the bounds. -/
theorem closestValidTick_closest (l : Ladder) (tick spacing : Int32) :
    (spacing ≤ 0 → l.NoValidTick tick spacing (.invalidInput (.spacingNotPositive spacing))) ∧
    (0 < spacing → (∀ other, ¬ l.Valid spacing other) →
      l.NoValidTick tick spacing (.outOfRange (.spacing spacing l.minTick l.maxTick))) ∧
    (0 < spacing → (∃ other, l.Valid spacing other) → ∃ least greatest closest,
      l.ValidTicks tick spacing least greatest closest ∧
      l.OutermostValid spacing least greatest ∧ l.ClosestValid spacing tick closest) ∧
    (0 < spacing → SnapsUp spacing.toInt64 l.minTick.toInt64 ∧
      SnapsDown spacing.toInt64 l.maxTick.toInt64 ∧
      SnapsNearest spacing.toInt64 tick.toInt64) := by
  refine ⟨fun refused => ?_, fun positive none => ?_, fun positive some => ?_, fun positive => ?_⟩
  · exact noValidTick (if_pos refused) tick
  · rcases validBounds_cases positive l with ⟨least, _, -, -, -, outermost⟩ | ⟨failed, -⟩
    · exact absurd outermost.least_valid (none least)
    · exact noValidTick failed tick
  · rcases validBounds_cases positive l with
      ⟨least, greatest, bounds, least_eq, greatest_eq, outermost⟩ | ⟨-, none⟩
    · refine ⟨least, greatest, _, ?_, outermost, closestValid_kept outermost positive tick⟩
      constructor
      · rw [minValidTick, bounds]
        rfl
      · rw [maxValidTick, bounds]
        rfl
      · rw [closestValidTick, bounds]
        rfl
      · exact least_eq
      · exact greatest_eq
      · exact toInt_kept outermost positive tick
    · obtain ⟨other, valid⟩ := some
      exact absurd valid (none other)
  · exact ⟨snapsUp_toInt64 l.minTick positive, snapsDown_toInt64 l.maxTick positive,
      snapsNearest_toInt64 tick positive⟩

/-- Between two multiples below zero the upper one is taken as well. -/
theorem closestValidTick_closest_halfway : Ladder.standard.Valid 100 0 ∧
    ∃ least greatest, Ladder.standard.ValidTicks (-150) 100 least greatest (-100) ∧
      Ladder.standard.ClosestValid 100 (-150) (-100) := by
  have valid : Ladder.standard.Valid 100 0 := ⟨by decide, by decide⟩
  obtain ⟨-, -, found, -⟩ := Ladder.standard.closestValidTick_closest (-150) 100
  obtain ⟨least, greatest, closest, ticks, -, nearest⟩ := found (by decide) ⟨0, valid⟩
  have given : Ladder.standard.closestValidTick (-150) 100 = .ok (-100) := by decide +kernel
  have same : closest = -100 := Except.ok.inj (ticks.closest_found.symm.trans given)
  rw [same] at ticks nearest
  exact ⟨valid, least, greatest, ticks, nearest⟩

end Ladder

end PriceLadder
