import PriceLadder.Ladder.Spacing
import PriceLadder.Proofs.Ladder.Exact

set_option autoImplicit false

namespace PriceLadder.Ladder

def withPolicy (l : Ladder) (policy : Policy) : Ladder :=
  { l with policy }

section

variable {l : Ladder} (policy : Policy)

theorem exactPrice_withPolicy {tick : Int32} (inside : l.inBounds tick) :
    (l.withPolicy policy).exactPrice tick = l.exactPrice tick := by
  obtain ⟨price, encoded, value⟩ := l.exists_exactPrice inside
  rw [encoded]
  exact ((l.withPolicy policy).exactPrice_eq_ok_iff inside).2 value

theorem exactTick_withPolicy {price : Price} (rounding : Rounding) (between : l.Spans price) :
    (l.withPolicy policy).exactTick price rounding = l.exactTick price rounding := by
  obtain ⟨least, greatest, lowest, highest, low, high⟩ := between
  obtain ⟨tick, decoded, -, onCurve⟩ := exists_exactTick rounding lowest highest low high
  have otherLowest : (l.withPolicy policy).minExactPrice = .ok least :=
    (exactPrice_withPolicy policy l.inBounds_minTick).trans lowest
  have otherHighest : (l.withPolicy policy).maxExactPrice = .ok greatest :=
    (exactPrice_withPolicy policy l.inBounds_maxTick).trans highest
  obtain ⟨otherTick, otherDecoded, -, otherOnCurve⟩ :=
    exists_exactTick rounding otherLowest otherHighest low high
  have same : otherTick = tick := Int32.toInt_inj.1 (otherOnCurve.trans onCurve.symm)
  rw [decoded, otherDecoded, same]

/-- The policy has no part in a band whose ends are on the ladder, nor in one that is refused for
being empty. -/
theorem tickRange_withPolicy {lower upper : Price} (spacing : Int32)
    (between : lower < upper → l.Spans lower ∧ l.Spans upper) :
    (l.withPolicy policy).tickRange lower upper spacing = l.tickRange lower upper spacing := by
  have bounds : (l.withPolicy policy).validBounds spacing = l.validBounds spacing := rfl
  unfold tickRange
  split
  · rfl
  · next ascending =>
    rw [Price.le_iff_toNat_le, Nat.not_le, ← Price.lt_iff_toNat_lt] at ascending
    rw [bounds, exactTick_withPolicy policy .floor (between ascending).1,
      exactTick_withPolicy policy .ceil (between ascending).2]

end

end PriceLadder.Ladder
