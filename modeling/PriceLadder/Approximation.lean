import PriceLadder.Decade
import PriceLadder.Resolution

set_option autoImplicit false

namespace PriceLadder

/-- The distance of `actual` from `expected`, in parts of `expected`; from zero, the distance
itself. -/
def relativeError (expected actual : Float) : Float :=
  if expected == 0 then actual.abs else ((actual - expected) / expected).abs

namespace Resolution

/-- `(10 ^ k + offset) * 10 ^ (f - k)` for a tick of the decade `f`, with one rounding beside that
of the power. -/
def approximatePrice (r : Resolution) (tick : Int64) : Float :=
  let decade := (r.decadeOfTick tick).toInt
  let offset := r.offsetInDecade tick
  let stepExponent := decade - r.exponent
  let significand := Float.ofNat (Nat.pow 10 r.exponent + offset)
  if offset = 0 then Binary64.pow10 decade
  else if 0 ≤ stepExponent then significand * Binary64.pow10 stepExponent
  else significand / Binary64.pow10 (-stepExponent)

/-- The tick nearest to a price, as far as the roundings of its decade's base and step allow. A
price just below a decade may round up to its first tick. -/
def approximateTick (r : Resolution) (price : Float) : Except Error Int64 := do
  let decade ← Binary64.decade price
  let base := Binary64.pow10 decade.toInt
  let step := Binary64.pow10 (decade.toInt - r.exponent)
  .ok (r.decadeStart decade + Binary64.roundInt64 ((price - base) / step))

example : standard.approximatePrice 100 = 1.0001 := by decide +kernel
example : standard.approximatePrice (-9000100) = 0.099999 := by decide +kernel

end Resolution

end PriceLadder
