import PriceLadder.Error

set_option autoImplicit false

namespace PriceLadder

/-- The ticks from `lower` to `upper`. Only `ofBounds` makes sure that there are any. -/
structure TickRange where
  lower : Int32
  upper : Int32
deriving DecidableEq

namespace TickRange

def ofBounds (lower upper : Int32) : Except Error TickRange :=
  if upper ≤ lower then .error (.invalidInput (.ticksNotAscending lower upper))
  else .ok ⟨lower, upper⟩

def width (range : TickRange) : Int64 :=
  range.upper.toInt64 - range.lower.toInt64

def contains (range : TickRange) (tick : Int32) : Bool :=
  range.lower ≤ tick && tick ≤ range.upper

instance : Membership Int32 TickRange :=
  ⟨fun range tick => range.lower ≤ tick ∧ tick ≤ range.upper⟩

theorem contains_iff_mem {range : TickRange} {tick : Int32} :
    range.contains tick ↔ tick ∈ range := by
  simp [contains, Membership.mem]

end TickRange

end PriceLadder
