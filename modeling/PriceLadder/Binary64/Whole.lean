set_option autoImplicit false

namespace PriceLadder.Binary64

open Float.Model.UnpackedFloat (Sign)

/-- The numerator of `m * 2 ^ e` over `denominator e`. -/
def numerator (m : Nat) (e : Int) : Nat :=
  m * Nat.pow 2 e.toNat

def denominator (e : Int) : Nat :=
  Nat.pow 2 (-e).toNat

def floor (sign : Sign) (m : Nat) (e : Int) : Int :=
  sign.apply (numerator m e) / (denominator e : Int)

/-- The whole number nearest to `± m * 2 ^ e`; a half goes away from zero. -/
def round (sign : Sign) (m : Nat) (e : Int) : Int :=
  sign.apply ((2 * numerator m e + denominator e) / (2 * denominator e) : Nat)

/-- A double made whole by `whole` and kept within `low` and `high`. An infinity stands for the
bound on its side, and what is not a number for zero. -/
def toWhole (whole : Sign → Nat → Int → Int) (low high : Int) (x : Float) : Int :=
  match x.toModel.unpack with
  | .notANumber => 0
  | .zero _ => 0
  | .infinity .negative => low
  | .infinity .positive => high
  | .finite sign m e _ => max low (min high (whole sign m e))

def floorInt32 (x : Float) : Int32 :=
  Int32.ofInt (toWhole floor Int32.minValue.toInt Int32.maxValue.toInt x)

def roundInt64 (x : Float) : Int64 :=
  Int64.ofInt (toWhole round Int64.minValue.toInt Int64.maxValue.toInt x)

example : floorInt32 (-3.5) = -4 ∧ floorInt32 1e300 = Int32.maxValue := by decide +kernel
example : roundInt64 (-2.5) = -3 ∧ roundInt64 2.4999999999999996 = 2 := by decide +kernel

end PriceLadder.Binary64
