import PriceLadder.Binary64.PowerOfTen
import PriceLadder.Numeral.Integer

set_option autoImplicit false

namespace PriceLadder.Json

/-- A number as written, since what it may stand for depends on where it is needed. Without a point
there is no fraction, and without an exponent mark no exponent. -/
structure Number where
  negative : Bool
  whole : List Char
  fraction : Option (List Char)
  exponent : Option Int
deriving DecidableEq, Repr

namespace Number

/-- The whole number that is written, if it is one; a zero with a minus sign is not. -/
def toInt? (n : Number) : Option Int :=
  let magnitude := Nat.ofDigitChars 10 n.whole 0
  match n.fraction, n.exponent with
  | none, none =>
    if n.negative then (if magnitude = 0 then none else some (-magnitude)) else some magnitude
  | _, _ => none

def toInt32? (n : Number) : Option Int32 := do
  let value ← n.toInt?
  if Int32.minValue.toInt ≤ value ∧ value ≤ Int32.maxValue.toInt then some (Int32.ofInt value)
  else none

/-- Takes digits into a 64-bit word as long as it can hold them. Answers the word and the digits
from the first one that does not fit. -/
def takeDigits (value : Nat) : List Char → Nat × List Char
  | [] => (value, [])
  | c :: rest =>
    let next := value * 10 + Numeral.digitValue c
    if next < Nat.pow 2 64 then takeDigits next rest else (value, c :: rest)

def greatestPower : Nat := 308

/-- `x / 10 ^ n`, in as many divisions as the powers that are doubles take. -/
def scaleDown (x : Float) (n : Nat) : Float :=
  if n ≤ greatestPower then x / Binary64.nearestPow10 n
  else if x == 0 then x
  else scaleDown (x / Binary64.nearestPow10 greatestPower) (n - greatestPower)
termination_by n
decreasing_by
  have : greatestPower = 308 := rfl
  omega

def scale? (x : Float) (exponent : Int) : Option Float :=
  if exponent < 0 then some (scaleDown x exponent.natAbs)
  else if exponent ≤ greatestPower then
    let scaled := x * Binary64.nearestPow10 exponent
    if scaled.isInf then none else some scaled
  else if x == 0 then some x
  else none

/-- The double without its sign, unless it is beyond the greatest one. It is made from the leading
digits that fit a 64-bit word and one scaling by a power of ten, so it is not always the nearest
one. An exponent that does not fit 32 bits is taken for infinite. -/
def magnitude? (n : Number) : Option Float :=
  let (leading, dropped) := takeDigits 0 n.whole
  let fraction := n.fraction.getD []
  let (significand, ignored) := takeDigits leading fraction
  let point : Int := dropped.length - (fraction.length - ignored.length : Nat)
  let exponent := n.exponent.getD 0
  if Int32.maxValue.toInt < exponent.natAbs then
    if significand = 0 ∨ exponent < 0 then some 0 else none
  else
    let total := Int32.ofIntClamp (point + exponent)
    scale? (Float.ofNat significand) total.toInt

def toFloat? (n : Number) : Option Float :=
  if n.negative then n.magnitude?.map Float.neg else n.magnitude?

end Number

end PriceLadder.Json
