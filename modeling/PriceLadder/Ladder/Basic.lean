import PriceLadder.Error
import PriceLadder.Resolution
import PriceLadder.Settings.Basic

set_option autoImplicit false

namespace PriceLadder

def isTolerance (tolerance : Float) : Bool :=
  tolerance.isFinite && !(tolerance < 0)

def Resolution.ofWidth (width : Int32) : Except Error Resolution :=
  match ofWidth? width with
  | some resolution => .ok resolution
  | none => .error (.invalidSettings (.badWidth width))

/-- The power of ten of the step in the decade of a tick. -/
def Resolution.stepAt (r : Resolution) (tick : Int32) : Int :=
  (r.decadeOfTick tick.toInt64).toInt - r.exponent

/-- The power of ten that ends the decade of a tick. -/
def Resolution.reachAt (r : Resolution) (tick : Int32) : Int :=
  (r.decadeOfTick tick.toInt64).toInt + 1

/-- A line of ticks between two bounds. The bounds are such that every tick of the decades between
them has an exact price. -/
structure Ladder where
  resolution : Resolution
  minTick : Int32
  maxTick : Int32
  policy : Policy
  tolerance : Float
  minTick_lt_maxTick : minTick < maxTick
  /-- The lowest step is at least one atom. -/
  step_ge : -Price.decimals ≤ resolution.stepAt minTick
  /-- The highest decade fits. -/
  reach_le : resolution.reachAt maxTick + Price.decimals ≤ Atoms.greatestExponent
  tolerance_valid : isTolerance tolerance
deriving DecidableEq

namespace Ladder

/-- The ladder that settings describe. Of several faults the first one counts, in the order width,
order of the bounds, lowest step, highest decade, tolerance. -/
def ofSettings (s : Settings) : Except Error Ladder := do
  let resolution ← Resolution.ofWidth s.decadeWidth
  if ascending : s.minTick < s.maxTick then
    if step : -Price.decimals ≤ resolution.stepAt s.minTick then
      if reach : resolution.reachAt s.maxTick + Price.decimals ≤ Atoms.greatestExponent then
        if tolerance : isTolerance s.precisionTolerance then
          .ok ⟨resolution, s.minTick, s.maxTick, s.outOfRange, s.precisionTolerance,
            ascending, step, reach, tolerance⟩
        else .error (.invalidSettings (.badTolerance s.precisionTolerance))
      else .error (.invalidSettings (.pricesTooLarge s.maxTick (resolution.reachAt s.maxTick)))
    else .error (.invalidSettings (.stepTooFine s.minTick (resolution.stepAt s.minTick)))
  else .error (.invalidSettings (.boundsNotAscending s.minTick s.maxTick))

def decadeWidth (l : Ladder) : Int32 :=
  Int32.ofNat l.resolution.width

def settings (l : Ladder) : Settings where
  decadeWidth := l.decadeWidth
  minTick := l.minTick
  maxTick := l.maxTick
  outOfRange := l.policy
  precisionTolerance := l.tolerance

def standard : Ladder where
  resolution := .standard
  minTick := Settings.standard.minTick
  maxTick := Settings.standard.maxTick
  policy := Settings.standard.outOfRange
  tolerance := Settings.standard.precisionTolerance
  minTick_lt_maxTick := by decide
  step_ge := by decide
  reach_le := by decide
  tolerance_valid := by decide +kernel

instance : Inhabited Ladder := ⟨standard⟩

def decadeOfTick (l : Ladder) (tick : Int32) : Int32 :=
  l.resolution.decadeOfTick tick.toInt64

def inBounds (l : Ladder) (tick : Int32) : Bool :=
  l.minTick ≤ tick && tick ≤ l.maxTick

/-- The tick on the ladder that stands for any tick: itself between the bounds, and outside them
the nearer bound if the policy clamps. -/
def boundTick (l : Ladder) (tick : Int32) : Except Error Int32 :=
  if l.inBounds tick then .ok tick
  else
    match l.policy with
    | .reject => .error (.outOfRange (.tick tick.toInt64 l.minTick l.maxTick))
    | .clamp => .ok (if tick < l.minTick then l.minTick else l.maxTick)

/-- The tick that stands for a price outside the bounds, which is `below` or above them. -/
def boundPrice (l : Ladder) (below : Bool) (outlier : Outlier) : Except Error Int32 :=
  match l.policy with
  | .reject => .error (.outOfRange outlier)
  | .clamp => .ok (if below then l.minTick else l.maxTick)

def checkTick (l : Ladder) (tick : Int64) : Except Error Int32 :=
  if l.minTick.toInt64 ≤ tick ∧ tick ≤ l.maxTick.toInt64 then .ok tick.toInt32
  else .error (.outOfRange (.tick tick l.minTick l.maxTick))

end Ladder

end PriceLadder
