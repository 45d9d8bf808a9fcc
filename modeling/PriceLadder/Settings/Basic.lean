import PriceLadder.Policy

set_option autoImplicit false

namespace PriceLadder

/-- What a user chooses about a ladder. `Ladder.ofSettings` decides whether it describes one. -/
structure Settings where
  decadeWidth : Int32
  minTick : Int32
  maxTick : Int32
  outOfRange : Policy
  /-- The greatest relative error of a decoded price that is not a loss of precision. -/
  precisionTolerance : Float
deriving DecidableEq

/-- Nine million ticks in a decade, prices from `10 ^ -12` to `10 ^ 38`. -/
def Settings.standard : Settings where
  decadeWidth := 9000000
  minTick := -108000000
  maxTick := 342000000
  outOfRange := .reject
  precisionTolerance := 1e-9

instance : Inhabited Settings := ⟨Settings.standard⟩

end PriceLadder
