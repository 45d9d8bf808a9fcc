import PriceLadder.Atoms

set_option autoImplicit false

namespace PriceLadder

/-- The tick chosen for a price between two ticks. -/
inductive Rounding where
  /-- The nearer tick; halfway, the upper one. -/
  | nearest
  | floor
  | ceil
deriving DecidableEq, Repr, Inhabited

namespace Rounding

def all : List Rounding := [.nearest, .floor, .ceil]

def name : Rounding → String
  | .nearest => "nearest"
  | .floor => "floor"
  | .ceil => "ceil"

def ofName? (name : String) : Option Rounding :=
  all.find? (·.name = name)

/-- The number of steps in `height`. -/
def steps (rounding : Rounding) (height step : Atoms) : Int64 :=
  let whole := Int64.ofNat (height / step).toNat
  let rest := height % step
  match rounding with
  | .nearest => if step - rest ≤ rest then whole + 1 else whole
  | .floor => whole
  | .ceil => if rest = 0 then whole else whole + 1

end Rounding

end PriceLadder
