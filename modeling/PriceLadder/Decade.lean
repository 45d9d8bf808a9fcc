import PriceLadder.Binary64.PowerOfTen
import PriceLadder.Binary64.Whole
import PriceLadder.Error

set_option autoImplicit false

namespace PriceLadder

/-- The decade of a price: the `z` with `10 ^ z ≤ price < 10 ^ (z + 1)`. -/
def Price.decade (price : Price) : Except Error Int32 :=
  match price.atoms.log10? with
  | some digits => .ok (Int32.ofInt (digits - decimals))
  | none => .error (.invalidInput .zeroPrice)

namespace Binary64

def isPrice (price : Float) : Bool :=
  price.isFinite && !(price ≤ 0)

/-- The decade of a price, from an estimate that is at most one decade off. The price is compared
with the powers of ten that tick prices are made of. -/
def decadeNear (estimate : Int32) (price : Float) : Int32 :=
  if price < pow10 estimate.toInt then estimate - 1
  else if pow10 (estimate.toInt + 1) ≤ price then estimate + 1
  else estimate

def decade (price : Float) : Except Error Int32 :=
  if isPrice price then .ok (decadeNear (floorInt32 price.log10) price)
  else .error (.invalidInput (.priceNotPositive price))

example : decadeNear 0 10 = 1 ∧ decadeNear 1 9.999999999999998 = 0 := by decide +kernel

end Binary64

end PriceLadder
