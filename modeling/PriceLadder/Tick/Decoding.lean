import PriceLadder.Error

set_option autoImplicit false

namespace PriceLadder

/-- The tick of a price, the price of that tick, and whether the two prices are too far apart.
The tick can be used even then. -/
structure Decoding where
  tick : Int32
  price : Float
  encodedPrice : Float
  relativeError : Float
  precisionLoss : Bool
deriving DecidableEq

def Decoding.strict (d : Decoding) : Except Error Int32 :=
  if d.precisionLoss then .error (.precisionLoss d.tick d.price d.encodedPrice)
  else .ok d.tick

end PriceLadder
