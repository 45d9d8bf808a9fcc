import PriceLadder.Proofs.Ladder.Exact

set_option autoImplicit false

namespace PriceLadder

/-- Whether `own` lies on the side of `price` that a rounding leads to, and less than one part in
`10 ^ exponent` of `price` away. The nearest tick has no side, and half of that part. -/
def Rounding.Near (rounding : Rounding) (exponent price own : Nat) : Prop :=
  match rounding with
  | .nearest => 2 * 10 ^ exponent * Nat.dist price own ≤ price
  | .floor => own ≤ price ∧ 10 ^ exponent * (price - own) < price
  | .ceil => price ≤ own ∧ 10 ^ exponent * (own - price) < price

namespace Resolution

section

variable {r : Resolution} {atoms : Nat} (fine : 10 ^ r.exponent ≤ atoms)
include fine

theorem pow_mul_gap_tickBelow_le : 10 ^ r.exponent * r.gap (r.tickBelow atoms) ≤ atoms :=
  Nat.le_trans (r.pow_mul_gap_le_curve (addressable_tickBelow fine)) (curve_tickBelow_le fine)

theorem pow_mul_lt_of_lt_gap {distance : Nat} (within : distance < r.gap (r.tickBelow atoms)) :
    10 ^ r.exponent * distance < atoms := by
  have positive : 0 < 10 ^ r.exponent := Nat.pow_pos (by decide)
  calc
    10 ^ r.exponent * distance < 10 ^ r.exponent * r.gap (r.tickBelow atoms) :=
      Nat.mul_lt_mul_of_pos_left within positive
    _ ≤ atoms := pow_mul_gap_tickBelow_le fine

/-- The nearest tick is at most half a step away, on either side. -/
theorem two_mul_dist_tickAt_nearest_le :
    2 * Nat.dist atoms (r.curve (r.tickAt .nearest atoms)) ≤ r.gap (r.tickBelow atoms) := by
  have below := curve_tickBelow_le fine
  have above := lt_curve_tickBelow_succ fine
  have climb := curve_succ r (addressable_tickBelow fine)
  rw [tickAt_nearest]
  unfold Nat.dist
  split
  · omega
  · omega

theorem near_curve_tickAt (rounding : Rounding) :
    rounding.Near r.exponent atoms (r.curve (r.tickAt rounding atoms)) := by
  have below := curve_tickBelow_le fine
  have above := lt_curve_tickBelow_succ fine
  have climb := curve_succ r (addressable_tickBelow fine)
  cases rounding with
  | nearest =>
    have half := Nat.mul_le_mul_left (10 ^ r.exponent) (two_mul_dist_tickAt_nearest_le fine)
    have scaled := Nat.le_trans half (pow_mul_gap_tickBelow_le fine)
    change 2 * 10 ^ r.exponent * _ ≤ atoms
    rw [Nat.mul_comm 2, Nat.mul_assoc]
    exact scaled
  | floor =>
    rw [tickAt_floor]
    exact ⟨below, pow_mul_lt_of_lt_gap fine (by omega)⟩
  | ceil =>
    have gap := r.gap_pos (r.tickBelow atoms)
    have side : atoms ≤ r.curve (r.tickAt .ceil atoms) ∧
        r.curve (r.tickAt .ceil atoms) - atoms < r.gap (r.tickBelow atoms) := by
      rw [tickAt_ceil]
      split
      · omega
      · omega
    exact ⟨side.1, pow_mul_lt_of_lt_gap fine side.2⟩

end

end Resolution

namespace Ladder

/-- Every price between those of the bounds has a tick, by every rounding, and the price of that
tick is near to it: the lower tick loses and the upper tick adds less than one part in `10 ^ k`, and
the nearest one changes the price by half a part at most. -/
theorem exactTick_drift (l : Ladder) {price : Price} (spanned : l.Spans price)
    (rounding : Rounding) : ∃ tick own, l.exactTick price rounding = .ok tick ∧
      l.exactPrice tick = .ok own ∧
      rounding.Near l.resolution.exponent price.atoms.toNat own.atoms.toNat := by
  obtain ⟨least, greatest, lowest, highest, low, high⟩ := spanned
  obtain ⟨tick, decoded, inside, onCurve⟩ := exists_exactTick rounding lowest highest low high
  obtain ⟨own, encoded, own_eq⟩ := l.exists_exactPrice inside
  refine ⟨tick, own, decoded, encoded, ?_⟩
  rw [own_eq, onCurve]
  exact Resolution.near_curve_tickAt (pow_exponent_le_of_le lowest low) rounding

/-- Half a step below the end of a decade the nearest tick is the first one of the next decade. -/
theorem exactTick_drift_seam : Ladder.standard.Spans ⟨99999995 * 10 ^ 17⟩ ∧
    Ladder.standard.exactTick ⟨99999995 * 10 ^ 17⟩ .nearest = .ok 9000000 ∧
    ∃ own, Ladder.standard.exactPrice 9000000 = .ok own ∧
      2 * 10 ^ 6 * Nat.dist (99999995 * 10 ^ 17) own.atoms.toNat ≤ 99999995 * 10 ^ 17 := by
  have spanned : Ladder.standard.Spans ⟨99999995 * 10 ^ 17⟩ :=
    spans_standard_iff.2 (by decide +kernel)
  have found : Ladder.standard.exactTick ⟨99999995 * 10 ^ 17⟩ .nearest = .ok 9000000 := by
    decide +kernel
  obtain ⟨tick, own, decoded, encoded, near⟩ := Ladder.standard.exactTick_drift spanned .nearest
  rw [found] at decoded
  obtain rfl := Except.ok.inj decoded
  exact ⟨spanned, found, own, encoded, near⟩

end Ladder

end PriceLadder
