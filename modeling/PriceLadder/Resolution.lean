import PriceLadder.Price.Basic
import PriceLadder.Rounding

set_option autoImplicit false

namespace PriceLadder

/-- The fineness of a ladder: a resolution `k` cuts each decade of prices, from `10 ^ f` to
`10 ^ (f + 1)`, into `9 * 10 ^ k` equal steps of `10 ^ (f - k)`. Ticks number the steps of all
decades in one line on which tick zero is the price one. -/
structure Resolution where
  exponent : Nat
  one_le_exponent : 1 ≤ exponent
  exponent_le_eight : exponent ≤ 8
deriving DecidableEq

namespace Resolution

def width (r : Resolution) : Nat :=
  9 * Nat.pow 10 r.exponent

theorem width_pos (r : Resolution) : 0 < r.width :=
  Nat.mul_pos (by decide) (Nat.pow_pos (by decide))

def all : List Resolution :=
  (List.finRange 8).map fun i => ⟨i.val + 1, by omega, by omega⟩

def ofWidth? (width : Int32) : Option Resolution :=
  all.find? fun r => r.width = width.toInt

def standard : Resolution :=
  ⟨6, by decide, by decide⟩

instance : Inhabited Resolution := ⟨standard⟩

/-- The decade that a tick lies in, as a 32-bit number: the decades of ticks too far out for one
wrap around. -/
def decadeOfTick (r : Resolution) (tick : Int64) : Int32 :=
  Int32.ofInt (tick.toInt / r.width)

def offsetInDecade (r : Resolution) (tick : Int64) : Nat :=
  (tick.toInt % r.width).toNat

def decadeStart (r : Resolution) (decade : Int32) : Int64 :=
  Int64.ofInt (decade.toInt * r.width)

/-- The power of ten of the lowest price of a decade, in atoms. -/
def baseExponent (decade : Int) : Int :=
  decade + Price.decimals

/-- The power of ten of the step of a decade, in atoms. -/
def stepExponent (r : Resolution) (decade : Int) : Int :=
  decade - r.exponent + Price.decimals

def exactPrice? (r : Resolution) (tick : Int64) : Option Price := do
  let decade := (r.decadeOfTick tick).toInt
  let base ← Atoms.pow10? (baseExponent decade)
  let step ← Atoms.pow10? (r.stepExponent decade)
  let climb ← step.mul? (BitVec.ofNat 256 (r.offsetInDecade tick))
  Price.mk <$> climb.add? base

/-- The tick of a price; none if the price is zero or its decade has steps below an atom. -/
def exactTick? (r : Resolution) (price : Price) (rounding : Rounding) : Option Int64 := do
  let digits ← price.atoms.log10?
  let decade : Int := digits - Price.decimals
  let base ← Atoms.pow10? (baseExponent decade)
  let step ← Atoms.pow10? (r.stepExponent decade)
  some (r.decadeStart (Int32.ofInt decade) + rounding.steps (price.atoms - base) step)

end Resolution

end PriceLadder
