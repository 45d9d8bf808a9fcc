import PriceLadder.Approximation
import PriceLadder.Ladder.Basic
import PriceLadder.Tick.Decoding

set_option autoImplicit false

namespace PriceLadder.Ladder

def approximatePrice (l : Ladder) (tick : Int32) : Except Error Float := do
  let tick ← l.boundTick tick
  .ok (l.resolution.approximatePrice tick.toInt64)

def minPrice (l : Ladder) : Float :=
  l.resolution.approximatePrice l.minTick.toInt64

def maxPrice (l : Ladder) : Float :=
  l.resolution.approximatePrice l.maxTick.toInt64

def approximateTick (l : Ladder) (price : Float) : Except Error Int32 := do
  if !Binary64.isPrice price then .error (.invalidInput (.priceNotPositive price))
  else if price < l.minPrice || l.maxPrice < price then
    l.boundPrice (price < l.minPrice) (.approximatePrice price l.minPrice l.maxPrice)
  else
    let tick ← l.resolution.approximateTick price
    l.checkTick tick

/-- The decoding of a price whose relative error is held against `tolerance`. -/
def decodingWithin (l : Ladder) (tolerance price : Float) : Except Error Decoding := do
  if !isTolerance tolerance then .error (.invalidInput (.badTolerance tolerance))
  else
    let tick ← l.approximateTick price
    let encodedPrice := l.resolution.approximatePrice tick.toInt64
    let error := relativeError price encodedPrice
    .ok ⟨tick, price, encodedPrice, error, tolerance < error⟩

def decoding (l : Ladder) (price : Float) : Except Error Decoding :=
  l.decodingWithin l.tolerance price

end PriceLadder.Ladder
