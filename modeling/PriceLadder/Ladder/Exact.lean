import PriceLadder.Ladder.Basic

set_option autoImplicit false

namespace PriceLadder.Ladder

def exactPrice (l : Ladder) (tick : Int32) : Except Error Price := do
  let tick ← l.boundTick tick
  match l.resolution.exactPrice? tick.toInt64 with
  | some price => .ok price
  | none => .error (.invalidSettings (.noExactPrice tick))

def minExactPrice (l : Ladder) : Except Error Price :=
  l.exactPrice l.minTick

def maxExactPrice (l : Ladder) : Except Error Price :=
  l.exactPrice l.maxTick

def exactTick (l : Ladder) (price : Price) (rounding : Rounding) : Except Error Int32 := do
  if price = .zero then .error (.invalidInput .zeroPrice)
  else
    let least ← l.minExactPrice
    let greatest ← l.maxExactPrice
    if price < least || greatest < price then
      l.boundPrice (price < least) (.exactPrice price least greatest)
    else
      match l.resolution.exactTick? price rounding with
      | some tick => l.checkTick tick
      | none => .error (.invalidInput (.priceTooFine price))

end PriceLadder.Ladder
