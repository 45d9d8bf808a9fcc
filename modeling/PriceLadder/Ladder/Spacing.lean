import PriceLadder.Ladder.Exact
import PriceLadder.Tick.Range

set_option autoImplicit false

namespace PriceLadder

/-- The greatest multiple of `spacing` that is at most `tick`. The 64-bit words hold every multiple
of a 32-bit spacing near a 32-bit tick. -/
def snapDown (spacing tick : Int64) : Int64 :=
  Int64.ofInt (tick.toInt / spacing.toInt) * spacing

def snapUp (spacing tick : Int64) : Int64 :=
  -snapDown spacing (-tick)

/-- The multiple of `spacing` nearest to `tick`; halfway, the upper one. -/
def snapNearest (spacing tick : Int64) : Int64 :=
  snapDown spacing (tick + spacing / 2)

def clampTick (low high : Int32) (tick : Int64) : Int32 :=
  if tick < low.toInt64 then low
  else if high.toInt64 < tick then high
  else tick.toInt32

namespace Ladder

/-- The least and the greatest valid tick: those between the bounds that are multiples of
`spacing`. -/
def validBounds (l : Ladder) (spacing : Int32) : Except Error (Int32 × Int32) :=
  if spacing ≤ 0 then .error (.invalidInput (.spacingNotPositive spacing))
  else
    let low := snapUp spacing.toInt64 l.minTick.toInt64
    let high := snapDown spacing.toInt64 l.maxTick.toInt64
    if high < low then .error (.outOfRange (.spacing spacing l.minTick l.maxTick))
    else .ok (low.toInt32, high.toInt32)

def minValidTick (l : Ladder) (spacing : Int32) : Except Error Int32 :=
  Prod.fst <$> l.validBounds spacing

def maxValidTick (l : Ladder) (spacing : Int32) : Except Error Int32 :=
  Prod.snd <$> l.validBounds spacing

/-- The valid tick nearest to any tick; halfway, the upper one. -/
def closestValidTick (l : Ladder) (tick spacing : Int32) : Except Error Int32 := do
  let (low, high) ← l.validBounds spacing
  .ok (clampTick low high (snapNearest spacing.toInt64 tick.toInt64))

/-- The smallest range of valid ticks around the prices from `lower` to `upper`, as far as the
valid ticks reach. -/
def tickRange (l : Ladder) (lower upper : Price) (spacing : Int32) : Except Error TickRange := do
  if upper ≤ lower then .error (.invalidInput (.pricesNotAscending lower upper))
  else
    let (least, greatest) ← l.validBounds spacing
    let low ← l.exactTick lower .floor
    let high ← l.exactTick upper .ceil
    let low := clampTick least greatest (snapDown spacing.toInt64 low.toInt64)
    let high := clampTick least greatest (snapUp spacing.toInt64 high.toInt64)
    if high ≤ low then .error (.outOfRange (.band lower upper least greatest))
    else TickRange.ofBounds low high

/-- The range of valid ticks around the prices from `price / factor` to `price * factor`, both
kept within the exact prices of the ladder. -/
def bandAround (l : Ladder) (price factor : Price) (spacing : Int32) : Except Error TickRange := do
  if price = .zero then .error (.invalidInput .zeroPrice)
  else if factor ≤ .one then .error (.invalidInput (.factorTooSmall factor))
  else
    let least ← l.minExactPrice
    let greatest ← l.maxExactPrice
    let lower := max ((price.div? factor).getD least) least
    let upper := min ((price.mul? factor).getD greatest) greatest
    l.tickRange lower upper spacing

end Ladder

end PriceLadder
