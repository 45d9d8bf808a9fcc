import PriceLadder.Ladder.Spacing
import PriceLadder.Proofs.Ladder.Exact

set_option autoImplicit false

namespace PriceLadder

/-- The greatest multiple of `spacing` up to `tick`. -/
def multipleBelow (spacing tick : Int) : Int :=
  tick / spacing * spacing

def multipleAbove (spacing tick : Int) : Int :=
  -multipleBelow spacing (-tick)

/-- The multiple of `spacing` nearest to `tick`; halfway, the upper one. -/
def multipleNearest (spacing tick : Int) : Int :=
  multipleBelow spacing (tick + spacing / 2)

section

variable {spacing tick multiple : Int}

theorem dvd_multipleBelow : spacing ∣ multipleBelow spacing tick :=
  Int.dvd_mul_left _ _

theorem dvd_multipleAbove : spacing ∣ multipleAbove spacing tick :=
  Int.dvd_neg.2 dvd_multipleBelow

theorem le_multipleBelow_iff (positive : 0 < spacing) (divides : spacing ∣ multiple) :
    multiple ≤ multipleBelow spacing tick ↔ multiple ≤ tick := by
  obtain ⟨count, rfl⟩ := divides
  rw [multipleBelow, Int.mul_comm spacing count, Int.mul_le_mul_iff_of_pos_right positive,
    Int.le_ediv_iff_mul_le positive]

theorem multipleAbove_le_iff (positive : 0 < spacing) (divides : spacing ∣ multiple) :
    multipleAbove spacing tick ≤ multiple ↔ tick ≤ multiple := by
  have mirrored : -multiple ≤ multipleBelow spacing (-tick) ↔ -multiple ≤ -tick :=
    le_multipleBelow_iff positive (Int.dvd_neg.2 divides)
  unfold multipleAbove
  omega

theorem multipleBelow_le (tick : Int) (positive : 0 < spacing) :
    multipleBelow spacing tick ≤ tick :=
  (le_multipleBelow_iff positive dvd_multipleBelow).1 (Int.le_refl _)

theorem le_multipleAbove (tick : Int) (positive : 0 < spacing) :
    tick ≤ multipleAbove spacing tick :=
  (multipleAbove_le_iff positive dvd_multipleAbove).1 (Int.le_refl _)

theorem sub_lt_multipleBelow (tick : Int) (positive : 0 < spacing) :
    tick - spacing < multipleBelow spacing tick := by
  have rest := Int.emod_lt_of_pos tick positive
  have division := Int.ediv_mul_add_emod tick spacing
  unfold multipleBelow
  omega

theorem multipleBelow_mono {other : Int} (positive : 0 < spacing) (le : tick ≤ other) :
    multipleBelow spacing tick ≤ multipleBelow spacing other := by
  apply (le_multipleBelow_iff positive dvd_multipleBelow).2
  exact Int.le_trans (multipleBelow_le tick positive) le

theorem multipleAbove_mono {other : Int} (positive : 0 < spacing) (le : tick ≤ other) :
    multipleAbove spacing tick ≤ multipleAbove spacing other := by
  apply (multipleAbove_le_iff positive dvd_multipleAbove).2
  exact Int.le_trans le (le_multipleAbove other positive)

theorem multipleBelow_le_multipleNearest (tick : Int) (positive : 0 < spacing) :
    multipleBelow spacing tick ≤ multipleNearest spacing tick := by
  apply multipleBelow_mono positive
  omega

theorem add_le_of_multiple_lt {other : Int} (divides : spacing ∣ multiple)
    (otherDivides : spacing ∣ other) (lt : multiple < other) : multiple + spacing ≤ other := by
  have apart := Int.le_of_dvd (Int.sub_pos.2 lt) (Int.dvd_sub otherDivides divides)
  omega

theorem multipleNearest_le_multipleAbove (tick : Int) (positive : 0 < spacing) :
    multipleNearest spacing tick ≤ multipleAbove spacing tick := by
  have near := multipleBelow_le (tick + spacing / 2) positive
  have above := le_multipleAbove tick positive
  unfold multipleNearest
  apply Int.not_lt.1
  intro past
  have apart := add_le_of_multiple_lt dvd_multipleAbove dvd_multipleBelow past
  omega

/-- Among the multiples between two others the nearest one to a tick is the nearest of all, kept
between the two; of two that are equally near it is the upper one. -/
theorem natAbs_kept_multipleNearest {low high other : Int} (tick : Int) (positive : 0 < spacing)
    (lowDivides : spacing ∣ low) (highDivides : spacing ∣ high) (divides : spacing ∣ other)
    (above : low ≤ other) (below : other ≤ high) :
    (max low (min (multipleNearest spacing tick) high) - tick).natAbs < (other - tick).natAbs ∨
      (max low (min (multipleNearest spacing tick) high) - tick).natAbs = (other - tick).natAbs ∧
        other ≤ max low (min (multipleNearest spacing tick) high) := by
  have nearDivides : spacing ∣ multipleNearest spacing tick := dvd_multipleBelow
  have near : multipleNearest spacing tick ≤ tick + spacing / 2 := multipleBelow_le _ positive
  have nearer : tick + spacing / 2 - spacing < multipleNearest spacing tick :=
    sub_lt_multipleBelow _ positive
  generalize multipleNearest spacing tick = nearest at nearDivides near nearer ⊢
  have apartBelow := add_le_of_multiple_lt divides nearDivides
  have apartAbove := add_le_of_multiple_lt nearDivides divides
  have lowApart := add_le_of_multiple_lt nearDivides lowDivides
  have highApart := add_le_of_multiple_lt highDivides nearDivides
  omega

end

section

variable {spacing tick : Int64}

theorem toInt_ofInt_ediv (tick : Int64) (positive : 0 < spacing.toInt) :
    (Int64.ofInt (tick.toInt / spacing.toInt)).toInt = tick.toInt / spacing.toInt := by
  have lower := tick.le_toInt
  have upper := tick.toInt_lt
  apply Int64.toInt_ofInt_of_le
  · rw [Int.le_ediv_iff_mul_le positive]
    omega
  · apply Int.ediv_lt_of_lt_mul positive
    omega

/-- The multiple below a tick has a word if the whole spacing below the tick has. -/
theorem toInt_snapDown (positive : 0 < spacing.toInt)
    (room : -2 ^ 63 ≤ tick.toInt - spacing.toInt) :
    (snapDown spacing tick).toInt = multipleBelow spacing.toInt tick.toInt := by
  have upper := tick.toInt_lt
  have near := sub_lt_multipleBelow tick.toInt positive
  have below := multipleBelow_le tick.toInt positive
  have quotient := toInt_ofInt_ediv tick positive
  unfold multipleBelow at near below ⊢
  rw [snapDown, Words.toInt_mul (by rw [quotient]; omega) (by rw [quotient]; omega), quotient]

theorem toInt_snapUp (positive : 0 < spacing.toInt) (small : -2 ^ 63 < tick.toInt)
    (room : tick.toInt + spacing.toInt ≤ 2 ^ 63) :
    (snapUp spacing tick).toInt = multipleAbove spacing.toInt tick.toInt := by
  have mirrored := Words.toInt_neg small
  have near := sub_lt_multipleBelow (-tick.toInt) positive
  have snapped : (snapDown spacing (-tick)).toInt =
      multipleBelow spacing.toInt (-tick.toInt) := by
    rw [toInt_snapDown positive (by omega), mirrored]
  rw [snapUp, Words.toInt_neg (by omega), snapped, multipleAbove]

end

section

variable {spacing : Int32} (tick : Int32) (positive : 0 < spacing)
include positive

theorem toInt_snapDown_toInt64 : (snapDown spacing.toInt64 tick.toInt64).toInt =
    multipleBelow spacing.toInt tick.toInt := by
  have low := tick.le_toInt
  have small := spacing.toInt_lt
  rw [Int32.lt_iff_toInt_lt] at positive
  rw [toInt_snapDown] <;> simp only [Int32.toInt_toInt64]
  · exact positive
  · omega

theorem toInt_snapUp_toInt64 : (snapUp spacing.toInt64 tick.toInt64).toInt =
    multipleAbove spacing.toInt tick.toInt := by
  have low := tick.le_toInt
  have high := tick.toInt_lt
  have small := spacing.toInt_lt
  rw [Int32.lt_iff_toInt_lt] at positive
  rw [toInt_snapUp] <;> simp only [Int32.toInt_toInt64]
  · exact positive
  · omega
  · omega

theorem toInt_half : (spacing.toInt64 / 2).toInt = spacing.toInt / 2 := by
  have small := spacing.toInt_lt
  rw [Int32.lt_iff_toInt_lt, show (0 : Int32).toInt = 0 from rfl] at positive
  rw [Int64.toInt_div, Int32.toInt_toInt64, show (2 : Int64).toInt = 2 from rfl,
    Int.tdiv_eq_ediv_of_nonneg (Int.le_of_lt positive), Int.bmod_eq_of_le (by omega) (by omega)]

theorem toInt_add_half :
    (tick.toInt64 + spacing.toInt64 / 2).toInt = tick.toInt + spacing.toInt / 2 := by
  have low := tick.le_toInt
  have high := tick.toInt_lt
  have small := spacing.toInt_lt
  have half := toInt_half positive
  rw [Int32.lt_iff_toInt_lt, show (0 : Int32).toInt = 0 from rfl] at positive
  rw [Words.toInt_add] <;> rw [half, Int32.toInt_toInt64]
  · omega
  · omega

theorem toInt_snapNearest_toInt64 : (snapNearest spacing.toInt64 tick.toInt64).toInt =
    multipleNearest spacing.toInt tick.toInt := by
  have low := tick.le_toInt
  have small := spacing.toInt_lt
  have moved := toInt_add_half tick positive
  rw [Int32.lt_iff_toInt_lt, show (0 : Int32).toInt = 0 from rfl] at positive
  rw [snapNearest, toInt_snapDown, moved, Int32.toInt_toInt64, multipleNearest]
  · rw [Int32.toInt_toInt64]
    exact positive
  · rw [moved, Int32.toInt_toInt64]
    omega

end

theorem toInt_clampTick {low high : Int32} {tick : Int64} (ordered : low.toInt ≤ high.toInt) :
    (clampTick low high tick).toInt = max low.toInt (min tick.toInt high.toInt) := by
  have least := low.le_toInt
  have greatest := high.toInt_lt
  unfold clampTick
  simp only [Int64.lt_iff_toInt_lt, Int32.toInt_toInt64]
  split
  · omega
  · split
    · omega
    · rw [Words.toInt_toInt32 (by omega) (by omega)]
      omega

theorem clampTick_toInt64 {low high : Int32} (tick : Int32) (ordered : low ≤ high) :
    clampTick low high tick.toInt64 = max low (min tick high) := by
  apply Int32.toInt_inj.1
  rw [toInt_clampTick (Int32.le_iff_toInt_le.1 ordered), Int32.toInt_toInt64, Words.toInt_max,
    Words.toInt_min]

namespace Ladder

def Valid (l : Ladder) (spacing tick : Int32) : Prop :=
  l.inBounds tick ∧ spacing.toInt ∣ tick.toInt

/-- The two valid ticks with all others between them. -/
structure OutermostValid (l : Ladder) (spacing least greatest : Int32) : Prop where
  least_valid : l.Valid spacing least
  greatest_valid : l.Valid spacing greatest
  least_le {tick : Int32} : l.Valid spacing tick → least ≤ tick
  le_greatest {tick : Int32} : l.Valid spacing tick → tick ≤ greatest

theorem OutermostValid.unique {l : Ladder} {spacing least greatest low high : Int32}
    (outermost : l.OutermostValid spacing least greatest)
    (other : l.OutermostValid spacing low high) : least = low ∧ greatest = high :=
  ⟨Int32.le_antisymm (outermost.least_le other.least_valid) (other.least_le outermost.least_valid),
    Int32.le_antisymm (other.le_greatest outermost.greatest_valid)
      (outermost.le_greatest other.greatest_valid)⟩

theorem OutermostValid.valid_clampTick {l : Ladder} {spacing least greatest : Int32}
    (outermost : l.OutermostValid spacing least greatest) {multiple : Int64}
    (divides : spacing.toInt ∣ multiple.toInt) :
    l.Valid spacing (clampTick least greatest multiple) := by
  have ordered := Int32.le_iff_toInt_le.1 (outermost.least_le outermost.greatest_valid)
  have moved : (clampTick least greatest multiple).toInt = _ := toInt_clampTick ordered
  have low := l.inBounds_iff.1 outermost.least_valid.1
  have high := l.inBounds_iff.1 outermost.greatest_valid.1
  rw [Valid, inBounds_iff, moved]
  refine ⟨by omega, ?_⟩
  rcases Int.le_total multiple.toInt greatest.toInt with le | ge
  · rw [Int.min_eq_left le]
    rcases Int.le_total least.toInt multiple.toInt with fromLeast | toLeast
    · rw [Int.max_eq_right fromLeast]
      exact divides
    · rw [Int.max_eq_left toLeast]
      exact outermost.least_valid.2
  · rw [Int.min_eq_right ge, Int.max_eq_right ordered]
    exact outermost.greatest_valid.2

section

variable {l : Ladder} {spacing : Int32} (positive : 0 < spacing)
include positive

/-- The valid ticks lie between the outermost multiples within the bounds. -/
theorem valid_iff {tick : Int32} : l.Valid spacing tick ↔ spacing.toInt ∣ tick.toInt ∧
    multipleAbove spacing.toInt l.minTick.toInt ≤ tick.toInt ∧
    tick.toInt ≤ multipleBelow spacing.toInt l.maxTick.toInt := by
  rw [Int32.lt_iff_toInt_lt] at positive
  rw [Valid, inBounds_iff, and_comm]
  refine and_congr_right fun divides => ?_
  rw [multipleAbove_le_iff positive divides, le_multipleBelow_iff positive divides]

theorem outermostValid {least greatest : Int32}
    (least_eq : least.toInt = multipleAbove spacing.toInt l.minTick.toInt)
    (greatest_eq : greatest.toInt = multipleBelow spacing.toInt l.maxTick.toInt)
    (ordered : least.toInt ≤ greatest.toInt) : l.OutermostValid spacing least greatest := by
  constructor
  · rw [valid_iff positive, least_eq]
    exact ⟨dvd_multipleAbove, Int.le_refl _, by omega⟩
  · rw [valid_iff positive, greatest_eq]
    exact ⟨dvd_multipleBelow, by omega, Int.le_refl _⟩
  · intro tick valid
    rw [Int32.le_iff_toInt_le, least_eq]
    exact ((valid_iff positive).1 valid).2.1
  · intro tick valid
    rw [Int32.le_iff_toInt_le, greatest_eq]
    exact ((valid_iff positive).1 valid).2.2

theorem validBounds_cases (l : Ladder) :
    (∃ least greatest, l.validBounds spacing = .ok (least, greatest) ∧
      least.toInt = multipleAbove spacing.toInt l.minTick.toInt ∧
      greatest.toInt = multipleBelow spacing.toInt l.maxTick.toInt ∧
      l.OutermostValid spacing least greatest) ∨
    (l.validBounds spacing = .error (.outOfRange (.spacing spacing l.minTick l.maxTick)) ∧
      ∀ tick, ¬ l.Valid spacing tick) := by
  have low_eq := toInt_snapUp_toInt64 l.minTick positive
  have high_eq := toInt_snapDown_toInt64 l.maxTick positive
  have fromMin := le_multipleAbove l.minTick.toInt (Int32.lt_iff_toInt_lt.1 positive)
  have toMax := multipleBelow_le l.maxTick.toInt (Int32.lt_iff_toInt_lt.1 positive)
  have minLow := l.minTick.le_toInt
  have maxHigh := l.maxTick.toInt_lt
  rw [validBounds, if_neg (Int32.not_le.2 positive)]
  generalize snapUp spacing.toInt64 l.minTick.toInt64 = low at low_eq ⊢
  generalize snapDown spacing.toInt64 l.maxTick.toInt64 = high at high_eq ⊢
  -- A valid tick would lie between the two multiples, which is impossible where they are crossed.
  by_cases crossed : high < low
  · refine .inr ⟨if_pos crossed, fun tick valid => ?_⟩
    have enclosed := (valid_iff positive).1 valid
    rw [Int64.lt_iff_toInt_lt, low_eq, high_eq] at crossed
    omega
  · refine .inl ⟨low.toInt32, high.toInt32, if_neg crossed, ?_⟩
    rw [Int64.lt_iff_toInt_lt] at crossed
    have least_eq : low.toInt32.toInt = multipleAbove spacing.toInt l.minTick.toInt := by
      rw [Words.toInt_toInt32 (by omega) (by omega), low_eq]
    have greatest_eq : high.toInt32.toInt = multipleBelow spacing.toInt l.maxTick.toInt := by
      rw [Words.toInt_toInt32 (by omega) (by omega), high_eq]
    exact ⟨least_eq, greatest_eq, outermostValid positive least_eq greatest_eq (by omega)⟩

end

theorem validBounds_eq_ok_iff (l : Ladder) {spacing least greatest : Int32} :
    l.validBounds spacing = .ok (least, greatest) ↔
      0 < spacing ∧ l.OutermostValid spacing least greatest := by
  by_cases positive : 0 < spacing
  · rw [and_iff_right positive]
    rcases validBounds_cases positive l with ⟨low, high, bounds, -, -, outermost⟩ | ⟨bounds, none⟩
    · rw [bounds, Except.ok.injEq, Prod.mk.injEq]
      constructor
      · rintro ⟨rfl, rfl⟩
        exact outermost
      · intro other
        exact outermost.unique other
    · rw [bounds]
      constructor
      · intro failed
        cases failed
      · intro outermost
        exact absurd outermost.least_valid (none least)
  · rw [validBounds, if_pos (Int32.not_lt.1 positive)]
    constructor
    · intro failed
      cases failed
    · rintro ⟨valid, -⟩
      exact absurd valid positive

end Ladder

end PriceLadder
