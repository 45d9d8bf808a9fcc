import PriceLadder.Proofs.Ladder.Exact
import PriceLadder.Proofs.Ladder.Settings

set_option autoImplicit false

namespace PriceLadder

/-- A finite double is negative unless zero is at most it. What is no number is neither. -/
theorem Binary64.not_lt_zero_eq {x : Float.Model.UnpackedFloat} (finite : x.isFinite) :
    (!x.lt (.zero .positive)) = Float.Model.UnpackedFloat.le (.zero .positive) x := by
  cases x with
  | infinity sign => cases finite
  | notANumber => cases finite
  | zero sign => rfl
  | finite sign mantissa exponent positive => cases sign <;> rfl

theorem isTolerance_iff {x : Float} : isTolerance x ↔ x.isFinite ∧ 0 ≤ x := by
  have zero : (0 : Float).toModel.unpack = .zero .positive := rfl
  have below : decide (x < 0) = x.toModel.unpack.lt (.zero .positive) := by
    rw [← zero, Bool.eq_iff_iff, decide_eq_true_iff]
    exact decide_eq_true_iff
  have above : 0 ≤ x ↔ Float.Model.UnpackedFloat.le (.zero .positive) x.toModel.unpack := by
    rw [← zero]
    exact decide_eq_true_iff
  rw [isTolerance, Bool.and_eq_true, below, above]
  exact and_congr_right fun finite => by rw [Binary64.not_lt_zero_eq finite]

/-- Whether settings describe a ladder of a resolution. Every tick of the decades from that of the
least tick to that of the greatest one has to have an exact price. -/
structure Settings.Describes (s : Settings) (r : Resolution) : Prop where
  width : s.decadeWidth.toInt = 9 * 10 ^ r.exponent
  ascending : s.minTick < s.maxTick
  finite : s.precisionTolerance.isFinite
  nonneg : 0 ≤ s.precisionTolerance
  priced (tick : Int64) : r.decadeOfTick s.minTick.toInt64 ≤ r.decadeOfTick tick →
    r.decadeOfTick tick ≤ r.decadeOfTick s.maxTick.toInt64 →
      ∃ price, r.exactPrice? tick = some price

namespace Resolution

theorem stepAt_ge {r : Resolution} {tick : Int32} {price : Price}
    (priced : r.exactPrice? tick.toInt64 = some price) : -Price.decimals ≤ r.stepAt tick := by
  have addressable := (r.exactPrice?_eq_some_iff_place.1 priced).1
  rw [Addressable, decade_place, stepExponent] at addressable
  unfold stepAt
  omega

/-- The highest decade ends within the word if its last tick has a price: that price is at least
nine times the lowest one of the decade, and nine times the last power of ten does not fit. -/
theorem reachAt_le {r : Resolution} {tick : Int32} {last : Int64} {price : Price}
    (last_eq : r.place last = (r.decadeOfTick tick.toInt64).toInt * r.width + (r.width - 1 : Nat))
    (priced : r.exactPrice? last = some price) :
    r.reachAt tick + Price.decimals ≤ Atoms.greatestExponent := by
  have width := r.width_pos
  have inside : r.width - 1 < r.width := by omega
  obtain ⟨addressable, price_eq⟩ := r.exactPrice?_eq_some_iff_place.1 priced
  rw [last_eq] at addressable price_eq
  have high := r.nine_mul_pow_le_curve addressable (by rw [offset_eq r inside]; omega)
  rw [← price_eq, decade_eq r inside] at high
  refine Int.not_lt.1 fun beyond => ?_
  have exponent : 77 ≤ (baseExponent (r.decadeOfTick tick.toInt64).toInt).toNat := by
    unfold reachAt Atoms.greatestExponent at beyond
    unfold baseExponent
    omega
  have fits := price.atoms.isLt
  have power : 10 ^ 77 ≤ 10 ^ (baseExponent (r.decadeOfTick tick.toInt64).toInt).toNat :=
    Nat.pow_le_pow_right (by decide) exponent
  omega

end Resolution

namespace Ladder

theorem exists_exactPrice?_of_decade_le (l : Ladder) {tick : Int64}
    (low : l.decadeOfTick l.minTick ≤ l.resolution.decadeOfTick tick)
    (high : l.resolution.decadeOfTick tick ≤ l.decadeOfTick l.maxTick) :
    ∃ price, l.resolution.exactPrice? tick = some price := by
  have decade := l.resolution.decade_place tick
  rw [Int32.le_iff_toInt_le, decadeOfTick, Resolution.decadeOfTick_toInt64, ← decade] at low high
  have addressable := l.addressable_of_decade_le low
  obtain ⟨atoms, value⟩ := Atoms.exists_toNat_eq (l.curve_lt_of_decade_le addressable high)
  exact ⟨⟨atoms⟩, l.resolution.exactPrice?_eq_some_iff_place.2 ⟨addressable, value⟩⟩

theorem describes (l : Ladder) : l.settings.Describes l.resolution where
  width := l.resolution.toInt_ofNat_width
  ascending := l.minTick_lt_maxTick
  finite := (isTolerance_iff.1 l.tolerance_valid).1
  nonneg := (isTolerance_iff.1 l.tolerance_valid).2
  priced _ := l.exists_exactPrice?_of_decade_le

/-- Two of the prices are enough: that of the least tick, and that of the last tick of the highest
decade. -/
theorem exists_settings_eq {s : Settings} {r : Resolution} (described : s.Describes r) :
    ∃ l : Ladder, l.settings = s := by
  have width := r.width_pos
  have decades : r.decadeOfTick s.minTick.toInt64 ≤ r.decadeOfTick s.maxTick.toInt64 := by
    rw [Int32.le_iff_toInt_le, Resolution.decadeOfTick_toInt64, Resolution.decadeOfTick_toInt64]
    exact r.decade_mono (Int.le_of_lt (Int32.lt_iff_toInt_lt.1 described.ascending))
  obtain ⟨lowest, lowestPriced⟩ :=
    described.priced s.minTick.toInt64 (Int32.le_refl _) decades
  obtain ⟨last, inHighest, last_eq⟩ := r.exists_place_eq (r.decadeOfTick s.maxTick.toInt64)
    (show r.width - 1 < r.width by omega)
  obtain ⟨highest, highestPriced⟩ := described.priced last (inHighest ▸ decades)
    (inHighest ▸ Int32.le_refl _)
  refine ⟨⟨r, s.minTick, s.maxTick, s.outOfRange, s.precisionTolerance, described.ascending,
    Resolution.stepAt_ge lowestPriced, Resolution.reachAt_le last_eq highestPriced,
    isTolerance_iff.2 ⟨described.finite, described.nonneg⟩⟩, ?_⟩
  have sameWidth : Int32.ofNat r.width = s.decadeWidth := by
    rw [← Int32.toInt_inj, r.toInt_ofNat_width, described.width]
    rfl
  simp only [settings, decadeWidth, sameWidth]

/-- Settings are accepted if and only if every tick of their decades has an exact price, besides
what has to hold of the width, the order of the bounds and the tolerance; all others are refused as
settings. A ladder keeps the settings that it was made of, and they make it again. -/
theorem ofSettings_accepts (s : Settings) :
    ((∃ l, ofSettings s = .ok l) ↔ ∃ r, s.Describes r) ∧
    (∀ error, ofSettings s = .error error → ∃ fault, error = .invalidSettings fault) ∧
    ∀ l, ofSettings s = .ok l → l.settings = s ∧ ofSettings l.settings = .ok l := by
  refine ⟨⟨?_, ?_⟩, ?_, ?_⟩
  · rintro ⟨l, accepted⟩
    rw [← settings_of_ofSettings accepted]
    exact ⟨l.resolution, l.describes⟩
  · rintro ⟨r, described⟩
    obtain ⟨l, rfl⟩ := exists_settings_eq described
    exact ⟨l, l.ofSettings_settings⟩
  · intro error refused
    rcases ofSettings_cases s with ⟨fault, found⟩ | ⟨l, found, -⟩
    · rw [found] at refused
      exact ⟨fault, (Except.error.inj refused).symm⟩
    · rw [found] at refused
      cases refused
  · intro l accepted
    exact ⟨settings_of_ofSettings accepted, l.ofSettings_settings⟩

end Ladder

end PriceLadder
