set_option autoImplicit false

namespace PriceLadder.Binary64

/-- The exponents whose power of ten is rounded only once. -/
def exactRange (e : Int) : Bool :=
  -30 ≤ e && e ≤ 60

def nearestPow10 (e : Int) : Float :=
  Float.ofScientific 1 (e < 0) e.natAbs

/-- The binary digits of `n`, lowest first. -/
def bitsOf (n : Nat) : List Bool :=
  (List.range (n.log2 + 1)).map n.testBit

/-- One digit of the exponent: the product takes the current square if the digit is set, and the
square is squared for the next one. -/
def squareStep (state : Float × Float) (bit : Bool) : Float × Float :=
  (if bit then state.1 * state.2 else state.1, state.2 * state.2)

def squaredPow10 (n : Nat) : Float :=
  ((bitsOf n).foldl squareStep (1, 10)).1

/-- `10 ^ e`, nearest in `exactRange` and by repeated squaring elsewhere, where it may be some units
off, infinite, or zero where the power it divides by is infinite. -/
def pow10 (e : Int) : Float :=
  if exactRange e then nearestPow10 e
  else if 0 ≤ e then squaredPow10 e.toNat
  else 1 / squaredPow10 e.natAbs

example : pow10 (-2) = 0.01 ∧ pow10 23 = 1e23 := by decide +kernel
example : pow10 (-309) = 0 ∧ (pow10 309).isInf := by decide +kernel

end PriceLadder.Binary64
