import PriceLadder.Proofs.Ladder.Grid
import PriceLadder.Proofs.Outcome

set_option autoImplicit false

namespace PriceLadder.Ladder

/-- Whether a tick is valid and costs `price` at most. -/
def ValidUpTo (l : Ladder) (spacing : Int32) (price : Price) (tick : Int32) : Prop :=
  l.Valid spacing tick ∧ ∃ own, l.exactPrice tick = .ok own ∧ own ≤ price

def ValidFrom (l : Ladder) (spacing : Int32) (price : Price) (tick : Int32) : Prop :=
  l.Valid spacing tick ∧ ∃ own, l.exactPrice tick = .ok own ∧ price ≤ own

/-- Whether `tick` is the greatest valid one up to `price`, or `least` where none is. -/
def LastUpTo (l : Ladder) (spacing least : Int32) (price : Price) (tick : Int32) : Prop :=
  (l.ValidUpTo spacing price tick ∧ ∀ other, l.ValidUpTo spacing price other → other ≤ tick) ∨
    ((∀ other, ¬ l.ValidUpTo spacing price other) ∧ tick = least)

/-- Whether `tick` is the least valid one from `price` on, or `greatest` where none is. -/
def FirstFrom (l : Ladder) (spacing greatest : Int32) (price : Price) (tick : Int32) : Prop :=
  (l.ValidFrom spacing price tick ∧ ∀ other, l.ValidFrom spacing price other → tick ≤ other) ∨
    ((∀ other, ¬ l.ValidFrom spacing price other) ∧ tick = greatest)

section

variable {l : Ladder} {spacing least greatest : Int32} {price : Price} {tick : Int32}

theorem validUpTo_iff : l.ValidUpTo spacing price tick ↔
    l.Valid spacing tick ∧ l.resolution.curve tick.toInt ≤ price.atoms.toNat := by
  simp only [ValidUpTo, Price.le_iff_toNat_le]
  exact and_congr_right fun valid =>
    l.exists_exactPrice_and_iff valid.1 fun atoms => atoms ≤ price.atoms.toNat

theorem validFrom_iff : l.ValidFrom spacing price tick ↔
    l.Valid spacing tick ∧ price.atoms.toNat ≤ l.resolution.curve tick.toInt := by
  simp only [ValidFrom, Price.le_iff_toNat_le]
  exact and_congr_right fun valid =>
    l.exists_exactPrice_and_iff valid.1 fun atoms => price.atoms.toNat ≤ atoms

/-- Under the tick of a price rounded down are the ticks that cost no more, and the lowest tick even
if it costs more. -/
theorem le_exactTick_floor_iff (decoded : l.exactTick price .floor = .ok tick) {other : Int32}
    (inside : l.inBounds other) :
    other ≤ tick ↔ other = l.minTick ∨ l.resolution.curve other.toInt ≤ price.atoms.toNat := by
  have position := l.inBounds_iff.1 inside
  have between := l.curve_between inside
  rw [Int32.le_iff_toInt_le, ← Int32.toInt_inj]
  rcases exactTick_curve_cases decoded with
    ⟨fine, low, -, -, onCurve⟩ | ⟨below, rfl⟩ | ⟨above, rfl⟩
  · rw [onCurve, ← Resolution.curve_le_iff_le_tickAt_floor fine (l.addressable inside)]
    constructor
    · exact Or.inr
    · rintro (same | le)
      · rw [same]
        exact low
      · exact le
  · omega
  · omega

theorem exactTick_ceil_le_iff (decoded : l.exactTick price .ceil = .ok tick) {other : Int32}
    (inside : l.inBounds other) :
    tick ≤ other ↔ other = l.maxTick ∨ price.atoms.toNat ≤ l.resolution.curve other.toInt := by
  have position := l.inBounds_iff.1 inside
  have between := l.curve_between inside
  rw [Int32.le_iff_toInt_le, ← Int32.toInt_inj]
  rcases exactTick_curve_cases decoded with
    ⟨fine, -, high, -, onCurve⟩ | ⟨below, rfl⟩ | ⟨above, rfl⟩
  · rw [onCurve, ← Resolution.le_curve_iff_tickAt_ceil_le fine (l.addressable inside)]
    constructor
    · exact Or.inr
    · rintro (same | le)
      · rw [same]
        exact high
      · exact le
  · omega
  · omega

end

section

variable {l : Ladder} {spacing least greatest : Int32} {price : Price} {tick : Int32}
  (outermost : l.OutermostValid spacing least greatest) (positive : 0 < spacing)
include outermost positive

/-- Under the lower end of a range are the valid ticks that cost no more than the lower price, and
the least one even if it costs more. -/
theorem le_lowerEnd_iff (decoded : l.exactTick price .floor = .ok tick) {other : Int32}
    (valid : l.Valid spacing other) :
    other ≤ clampTick least greatest (snapDown spacing.toInt64 tick.toInt64) ↔
      other = least ∨ l.resolution.curve other.toInt ≤ price.atoms.toNat := by
  have ordered := Int32.le_iff_toInt_le.1 (outermost.least_le outermost.greatest_valid)
  have fromLeast := Int32.le_iff_toInt_le.1 (outermost.least_le valid)
  have toGreatest := Int32.le_iff_toInt_le.1 (outermost.le_greatest valid)
  have low := l.inBounds_iff.1 outermost.least_valid.1
  have belowTick := le_exactTick_floor_iff decoded valid.1
  have belowMultiple : other.toInt ≤ multipleBelow spacing.toInt tick.toInt ↔
      other.toInt ≤ tick.toInt :=
    le_multipleBelow_iff (Int32.lt_iff_toInt_lt.1 positive) valid.2
  rw [Int32.le_iff_toInt_le, ← Int32.toInt_inj] at belowTick
  rw [Int32.le_iff_toInt_le, ← Int32.toInt_inj, toInt_clampTick ordered,
    toInt_snapDown_toInt64 tick positive]
  omega

theorem upperEnd_le_iff (decoded : l.exactTick price .ceil = .ok tick) {other : Int32}
    (valid : l.Valid spacing other) :
    clampTick least greatest (snapUp spacing.toInt64 tick.toInt64) ≤ other ↔
      other = greatest ∨ price.atoms.toNat ≤ l.resolution.curve other.toInt := by
  have ordered := Int32.le_iff_toInt_le.1 (outermost.least_le outermost.greatest_valid)
  have fromLeast := Int32.le_iff_toInt_le.1 (outermost.least_le valid)
  have toGreatest := Int32.le_iff_toInt_le.1 (outermost.le_greatest valid)
  have high := l.inBounds_iff.1 outermost.greatest_valid.1
  have aboveTick := exactTick_ceil_le_iff decoded valid.1
  have aboveMultiple : multipleAbove spacing.toInt tick.toInt ≤ other.toInt ↔
      tick.toInt ≤ other.toInt :=
    multipleAbove_le_iff (Int32.lt_iff_toInt_lt.1 positive) valid.2
  rw [Int32.le_iff_toInt_le, ← Int32.toInt_inj] at aboveTick
  rw [Int32.le_iff_toInt_le, ← Int32.toInt_inj, toInt_clampTick ordered,
    toInt_snapUp_toInt64 tick positive]
  omega

theorem valid_lowerEnd (tick : Int32) :
    l.Valid spacing (clampTick least greatest (snapDown spacing.toInt64 tick.toInt64)) := by
  apply outermost.valid_clampTick
  rw [toInt_snapDown_toInt64 tick positive]
  exact dvd_multipleBelow

theorem valid_upperEnd (tick : Int32) :
    l.Valid spacing (clampTick least greatest (snapUp spacing.toInt64 tick.toInt64)) := by
  apply outermost.valid_clampTick
  rw [toInt_snapUp_toInt64 tick positive]
  exact dvd_multipleAbove

theorem lastUpTo_lowerEnd (decoded : l.exactTick price .floor = .ok tick) :
    l.LastUpTo spacing least price
      (clampTick least greatest (snapDown spacing.toInt64 tick.toInt64)) := by
  have valid := valid_lowerEnd outermost positive tick
  have below {other : Int32} (valid : l.Valid spacing other) :=
    le_lowerEnd_iff outermost positive decoded valid
  generalize clampTick least greatest (snapDown spacing.toInt64 tick.toInt64) = reached
    at valid below ⊢
  simp only [LastUpTo, validUpTo_iff]
  by_cases reaches : l.resolution.curve reached.toInt ≤ price.atoms.toNat
  · left
    refine ⟨⟨valid, reaches⟩, fun other upTo => ?_⟩
    rw [below upTo.1]
    exact .inr upTo.2
  · right
    have same : reached = least := ((below valid).1 (Int32.le_refl reached)).resolve_right reaches
    refine ⟨fun other upTo => ?_, same⟩
    have le := (below upTo.1).2 (.inr upTo.2)
    rw [same] at le reaches
    rw [Int32.le_antisymm le (outermost.least_le upTo.1)] at upTo
    exact reaches upTo.2

theorem firstFrom_upperEnd (decoded : l.exactTick price .ceil = .ok tick) :
    l.FirstFrom spacing greatest price
      (clampTick least greatest (snapUp spacing.toInt64 tick.toInt64)) := by
  have valid := valid_upperEnd outermost positive tick
  have above {other : Int32} (valid : l.Valid spacing other) :=
    upperEnd_le_iff outermost positive decoded valid
  generalize clampTick least greatest (snapUp spacing.toInt64 tick.toInt64) = reached
    at valid above ⊢
  simp only [FirstFrom, validFrom_iff]
  by_cases reaches : price.atoms.toNat ≤ l.resolution.curve reached.toInt
  · left
    refine ⟨⟨valid, reaches⟩, fun other fromPrice => ?_⟩
    rw [above fromPrice.1]
    exact .inr fromPrice.2
  · right
    have same : reached = greatest :=
      ((above valid).1 (Int32.le_refl reached)).resolve_right reaches
    refine ⟨fun other fromPrice => ?_, same⟩
    have le := (above fromPrice.1).2 (.inr fromPrice.2)
    rw [same] at le reaches
    rw [Int32.le_antisymm (outermost.le_greatest fromPrice.1) le] at fromPrice
    exact reaches fromPrice.2

theorem lowerEnd_lt_upperEnd_iff {lower upper : Price} {low high : Int32}
    (ascending : lower < upper) (lowDecoded : l.exactTick lower .floor = .ok low)
    (highDecoded : l.exactTick upper .ceil = .ok high) :
    clampTick least greatest (snapDown spacing.toInt64 low.toInt64) <
        clampTick least greatest (snapUp spacing.toInt64 high.toInt64) ↔
      least < greatest ∧ lower.atoms.toNat < l.resolution.curve greatest.toInt ∧
        l.resolution.curve least.toInt < upper.atoms.toNat := by
  have startValid := valid_lowerEnd outermost positive low
  have finishValid := valid_upperEnd outermost positive high
  have below {other : Int32} (valid : l.Valid spacing other) :=
    le_lowerEnd_iff outermost positive lowDecoded valid
  have above {other : Int32} (valid : l.Valid spacing other) :=
    upperEnd_le_iff outermost positive highDecoded valid
  generalize clampTick least greatest (snapDown spacing.toInt64 low.toInt64) = start
    at startValid below ⊢
  generalize clampTick least greatest (snapUp spacing.toInt64 high.toInt64) = finish
    at finishValid above ⊢
  have fromLeast := outermost.least_le startValid
  have toGreatest := outermost.le_greatest finishValid
  have greatestBelow := below outermost.greatest_valid
  have leastAbove := above outermost.least_valid
  have startBelow := below startValid
  have startAbove := above startValid
  simp only [Int32.le_iff_toInt_le, Int32.lt_iff_toInt_lt, Price.lt_iff_toNat_lt,
    ← Int32.toInt_inj] at *
  constructor
  · intro apart
    omega
  · rintro ⟨several, lowerSmall, upperLarge⟩
    -- A lower end at or above the upper one would be a valid tick that costs at most the lower
    -- price and at least the upper one, unless it is one of the outermost ticks.
    by_cases reaches : l.resolution.curve start.toInt ≤ lower.atoms.toNat
    · by_cases last : start.toInt = greatest.toInt
      · rw [last] at reaches
        omega
      · omega
    · have same : start.toInt = least.toInt := by omega
      omega

end

section

variable (l : Ladder) (lower upper : Price) (spacing : Int32)

theorem tickRange_eq_ok_iff (range : TickRange) : l.tickRange lower upper spacing = .ok range ↔
    lower < upper ∧ ∃ least greatest, l.validBounds spacing = .ok (least, greatest) ∧
      ∃ low, l.exactTick lower .floor = .ok low ∧ ∃ high, l.exactTick upper .ceil = .ok high ∧
        range.lower = clampTick least greatest (snapDown spacing.toInt64 low.toInt64) ∧
        range.upper = clampTick least greatest (snapUp spacing.toInt64 high.toInt64) ∧
        range.lower < range.upper := by
  have ascending : ¬ upper ≤ lower ↔ lower < upper := by
    rw [Price.le_iff_toNat_le, Price.lt_iff_toNat_lt, Nat.not_le]
  have ends (low high : Int32) : ¬ high ≤ low ∧ TickRange.ofBounds low high = .ok range ↔
      range.lower = low ∧ range.upper = high ∧ range.lower < range.upper := by
    rw [TickRange.ofBounds, Outcome.ite_error_eq_ok_iff, Except.ok.injEq, Int32.not_le]
    constructor
    · rintro ⟨apart, -, rfl⟩
      exact ⟨rfl, rfl, apart⟩
    · rintro ⟨rfl, rfl, apart⟩
      exact ⟨apart, apart, rfl⟩
  simp only [tickRange, Outcome.ite_error_eq_ok_iff, Outcome.bind_eq_ok_iff, Prod.exists, ascending,
    ends]

theorem tickRange_ends {range : TickRange} (made : l.tickRange lower upper spacing = .ok range) :
    ∃ least greatest, l.OutermostValid spacing least greatest ∧
      l.LastUpTo spacing least lower range.lower ∧
      l.FirstFrom spacing greatest upper range.upper ∧ range.lower < range.upper := by
  obtain ⟨-, least, greatest, bounds, low, lowDecoded, high, highDecoded, start, finish, apart⟩ :=
    (l.tickRange_eq_ok_iff lower upper spacing range).1 made
  obtain ⟨positive, outermost⟩ := l.validBounds_eq_ok_iff.1 bounds
  refine ⟨least, greatest, outermost, ?_, ?_, apart⟩
  · rw [start]
    exact lastUpTo_lowerEnd outermost positive lowDecoded
  · rw [finish]
    exact firstFrom_upperEnd outermost positive highDecoded

/-- What a band of prices needs for a range: it is not empty, the spacing leaves two valid ticks or
more, the band is not wholly above the greatest of them or below the least, and, where the policy
rejects, it lies on the ladder. -/
structure HasRange : Prop where
  lower_pos : .zero < lower
  ascending : lower < upper
  spacing_pos : 0 < spacing
  reached : ∃ least greatest leastOwn greatestOwn, l.OutermostValid spacing least greatest ∧
    least < greatest ∧ l.exactPrice least = .ok leastOwn ∧ l.exactPrice greatest = .ok greatestOwn ∧
    lower < greatestOwn ∧ leastOwn < upper
  onLadder : l.policy = .reject → l.Spans lower ∧ l.Spans upper

theorem exists_tickRange_iff :
    (∃ range, l.tickRange lower upper spacing = .ok range) ↔ l.HasRange lower upper spacing := by
  constructor
  · rintro ⟨range, made⟩
    obtain ⟨ascending, least, greatest, bounds, low, lowDecoded, high, highDecoded, start, finish,
      apart⟩ := (l.tickRange_eq_ok_iff lower upper spacing range).1 made
    obtain ⟨positive, outermost⟩ := l.validBounds_eq_ok_iff.1 bounds
    obtain ⟨leastOwn, leastEncoded, least_eq⟩ := l.exists_exactPrice outermost.least_valid.1
    obtain ⟨greatestOwn, greatestEncoded, greatest_eq⟩ :=
      l.exists_exactPrice outermost.greatest_valid.1
    have lowOnLadder := (l.exists_exactTick_iff lower .floor).1 ⟨low, lowDecoded⟩
    have highOnLadder := (l.exists_exactTick_iff upper .ceil).1 ⟨high, highDecoded⟩
    rw [start, finish, lowerEnd_lt_upperEnd_iff outermost positive ascending lowDecoded highDecoded,
      ← least_eq, ← greatest_eq] at apart
    obtain ⟨several, lowerSmall, upperLarge⟩ := apart
    exact ⟨lowOnLadder.1, ascending, positive,
      ⟨least, greatest, leastOwn, greatestOwn, outermost, several, leastEncoded, greatestEncoded,
        Price.lt_iff_toNat_lt.2 lowerSmall, Price.lt_iff_toNat_lt.2 upperLarge⟩,
      fun policy => ⟨lowOnLadder.2 policy, highOnLadder.2 policy⟩⟩
  · rintro ⟨lowerPositive, ascending, positive, ⟨least, greatest, leastOwn, greatestOwn, outermost,
      several, leastEncoded, greatestEncoded, lowerSmall, upperLarge⟩, onLadder⟩
    have upperPositive : Price.zero < upper := by
      rw [Price.lt_iff_toNat_lt] at lowerPositive ascending ⊢
      omega
    obtain ⟨low, lowDecoded⟩ := (l.exists_exactTick_iff lower .floor).2
      ⟨lowerPositive, fun policy => (onLadder policy).1⟩
    obtain ⟨high, highDecoded⟩ := (l.exists_exactTick_iff upper .ceil).2
      ⟨upperPositive, fun policy => (onLadder policy).2⟩
    rw [Price.lt_iff_toNat_lt,
      (l.exactPrice_eq_ok_iff outermost.greatest_valid.1).1 greatestEncoded] at lowerSmall
    rw [Price.lt_iff_toNat_lt,
      (l.exactPrice_eq_ok_iff outermost.least_valid.1).1 leastEncoded] at upperLarge
    have apart := (lowerEnd_lt_upperEnd_iff outermost positive ascending lowDecoded highDecoded).2
      ⟨several, lowerSmall, upperLarge⟩
    exact ⟨⟨_, _⟩, (l.tickRange_eq_ok_iff lower upper spacing _).2 ⟨ascending, least, greatest,
      l.validBounds_eq_ok_iff.2 ⟨positive, outermost⟩, low, lowDecoded, high, highDecoded, rfl, rfl,
      apart⟩⟩

/-- A band of prices has a range of valid ticks if and only if it has what one needs, and the range
is the smallest one around the band, as far as the valid ticks reach. -/
theorem tickRange_tightest :
    ((∃ range, l.tickRange lower upper spacing = .ok range) ↔ l.HasRange lower upper spacing) ∧
    ∀ range, l.tickRange lower upper spacing = .ok range →
      ∃ least greatest, l.OutermostValid spacing least greatest ∧
        l.LastUpTo spacing least lower range.lower ∧
        l.FirstFrom spacing greatest upper range.upper ∧ range.lower < range.upper :=
  ⟨l.exists_tickRange_iff lower upper spacing, fun _ made =>
    l.tickRange_ends lower upper spacing made⟩

end

/-- Seven divides neither bound of the ladder nor the tick of the price two. A band up to the
greatest price has the greatest multiple as its upper end, which costs less than that price. -/
theorem tickRange_tightest_uneven :
    ¬ Ladder.standard.Valid 7 Ladder.standard.minTick ∧
    ¬ Ladder.standard.Valid 7 Ladder.standard.maxTick ∧
    Ladder.standard.tickRange ⟨2 * 10 ^ 24⟩ ⟨10 ^ 62⟩ 7 = .ok ⟨999999, 341999994⟩ ∧
    Ladder.standard.HasRange ⟨2 * 10 ^ 24⟩ ⟨10 ^ 62⟩ 7 ∧
    Ladder.standard.OutermostValid 7 (-107999997) 341999994 ∧
    Ladder.standard.LastUpTo 7 (-107999997) ⟨2 * 10 ^ 24⟩ 999999 ∧
    Ladder.standard.FirstFrom 7 341999994 ⟨10 ^ 62⟩ 341999994 := by
  have made : Ladder.standard.tickRange ⟨2 * 10 ^ 24⟩ ⟨10 ^ 62⟩ 7 = .ok ⟨999999, 341999994⟩ := by
    decide +kernel
  have bounds : Ladder.standard.validBounds 7 = .ok (-107999997, 341999994) := by decide +kernel
  have outermost := (Ladder.standard.validBounds_eq_ok_iff.1 bounds).2
  obtain ⟨hasRange, ends⟩ := Ladder.standard.tickRange_tightest ⟨2 * 10 ^ 24⟩ ⟨10 ^ 62⟩ 7
  obtain ⟨least, greatest, own, low, high, -⟩ := ends _ made
  obtain ⟨rfl, rfl⟩ := own.unique outermost
  exact ⟨fun valid => absurd valid.2 (by decide), fun valid => absurd valid.2 (by decide), made,
    hasRange.1 ⟨_, made⟩, outermost, low, high⟩

end PriceLadder.Ladder
