import PriceLadder.Decade
import PriceLadder.Proofs.Ladder.Exact

set_option autoImplicit false

namespace PriceLadder

theorem Price.decade_eq_ok {price : Price} (positive : 0 < price.atoms.toNat) :
    price.decade = .ok (Int32.ofInt (Nat.log 10 price.atoms.toNat - decimals)) := by
  have nonzero : price.atoms ≠ 0 := by
    intro zero
    rw [zero] at positive
    exact Nat.lt_irrefl 0 positive
  rw [decade, Atoms.log10?_eq_log nonzero]

namespace Ladder

/-- Whether `next` is one step of the decade of `tick` above `own`, and what such a step is in
relation to the price. -/
structure Climbs (l : Ladder) (tick : Int32) (own next : Price) : Prop where
  whole : 0 ≤ l.resolution.stepExponent (l.decadeOfTick tick).toInt
  step : next.atoms.toNat =
    own.atoms.toNat + 10 ^ (l.resolution.stepExponent (l.decadeOfTick tick).toInt).toNat
  fine : 10 ^ l.resolution.exponent * (next.atoms.toNat - own.atoms.toNat) ≤ own.atoms.toNat
  coarse : own.atoms.toNat <
    10 ^ (l.resolution.exponent + 1) * (next.atoms.toNat - own.atoms.toNat)

section

variable {l : Ladder} {tick : Int32} {own : Price} (inside : l.inBounds tick)
  (encoded : l.exactPrice tick = .ok own)
include inside encoded

theorem decade_exactPrice : own.decade = .ok (l.decadeOfTick tick) := by
  have addressable := l.addressable inside
  have own_eq := (l.exactPrice_eq_ok_iff inside).1 encoded
  have positive : 0 < own.atoms.toNat := by
    rw [own_eq]
    exact Nat.lt_of_lt_of_le (Nat.pow_pos (by decide))
      (l.resolution.pow_baseExponent_le_curve tick.toInt)
  have fromZero : 0 ≤ Resolution.baseExponent (l.resolution.decade tick.toInt) := by
    unfold Resolution.Addressable Resolution.stepExponent at addressable
    unfold Resolution.baseExponent
    omega
  rw [Price.decade_eq_ok positive, own_eq, Resolution.log_curve _ addressable,
    Int.toNat_of_nonneg fromZero, Resolution.baseExponent, Int.add_sub_cancel,
    ← Resolution.decadeOfTick_toInt64, Int32.ofInt_toInt, decadeOfTick]

theorem exactPrice_lt {other : Int32} {otherOwn : Price} (otherInside : l.inBounds other)
    (otherEncoded : l.exactPrice other = .ok otherOwn) (lt : tick < other) : own < otherOwn := by
  rw [Price.lt_iff_toNat_lt, (l.exactPrice_eq_ok_iff inside).1 encoded,
    (l.exactPrice_eq_ok_iff otherInside).1 otherEncoded]
  exact l.resolution.curve_lt_curve (l.addressable inside) (Int32.lt_iff_toInt_lt.1 lt)

theorem exists_climbs (below : tick < l.maxTick) :
    ∃ next, l.exactPrice (tick + 1) = .ok next ∧ l.Climbs tick own next := by
  have position := l.inBounds_iff.1 inside
  have low := tick.le_toInt
  have high := l.maxTick.toInt_lt
  rw [Int32.lt_iff_toInt_lt] at below
  have one : (1 : Int32).toInt = 1 := rfl
  have successor : (tick + 1).toInt = tick.toInt + 1 := by
    rw [Int32.toInt_add, one, Int.bmod_eq_of_le (by omega) (by omega)]
  have nextInside : l.inBounds (tick + 1) := by
    rw [inBounds_iff]
    omega
  obtain ⟨next, nextEncoded, next_eq⟩ := l.exists_exactPrice nextInside
  have addressable := l.addressable inside
  have own_eq := (l.exactPrice_eq_ok_iff inside).1 encoded
  have decade_eq : (l.decadeOfTick tick).toInt = l.resolution.decade tick.toInt :=
    l.resolution.decadeOfTick_toInt64 tick
  rw [successor, Resolution.curve_succ _ addressable, ← own_eq] at next_eq
  have climb : next.atoms.toNat - own.atoms.toNat = l.resolution.gap tick.toInt := by omega
  refine ⟨next, nextEncoded, ?_, ?_, ?_, ?_⟩
  · rw [decade_eq]
    exact addressable
  · rw [decade_eq]
    exact next_eq
  · rw [climb, own_eq]
    exact l.resolution.pow_mul_gap_le_curve addressable
  · rw [climb, own_eq]
    exact l.resolution.curve_lt_pow_mul_gap addressable

end

/-- The prices of a ladder climb with its ticks, step by step, and each is in the decade of its
tick. -/
theorem exactPrice_climbs (l : Ladder) {tick : Int32} (inside : l.inBounds tick) :
    ∃ own, l.exactPrice tick = .ok own ∧ own.decade = .ok (l.decadeOfTick tick) ∧
      (tick < l.maxTick → ∃ next, l.exactPrice (tick + 1) = .ok next ∧ l.Climbs tick own next) ∧
      ∀ other otherOwn, l.inBounds other → l.exactPrice other = .ok otherOwn → tick < other →
        own < otherOwn := by
  obtain ⟨own, encoded, -⟩ := l.exists_exactPrice inside
  exact ⟨own, encoded, decade_exactPrice inside encoded, exists_climbs inside encoded,
    fun other otherOwn => exactPrice_lt inside encoded⟩

theorem exactPrice_climbs_seam : Ladder.standard.inBounds 8999999 ∧
    ∃ own next, Ladder.standard.exactPrice 8999999 = .ok own ∧
      Ladder.standard.exactPrice 9000000 = .ok next ∧
      own.decade = .ok 0 ∧ Ladder.standard.Climbs 8999999 own next := by
  have inside : Ladder.standard.inBounds 8999999 := by decide
  obtain ⟨own, encoded, decade, climbs, -⟩ := Ladder.standard.exactPrice_climbs inside
  obtain ⟨next, nextEncoded, climb⟩ := climbs (by decide)
  exact ⟨inside, own, next, encoded, nextEncoded, decade, climb⟩

end Ladder

end PriceLadder
