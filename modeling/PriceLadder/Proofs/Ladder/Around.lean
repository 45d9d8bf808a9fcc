import PriceLadder.Proofs.Ladder.Covering
import PriceLadder.Proofs.Price.Arithmetic

set_option autoImplicit false

namespace PriceLadder.Ladder

/-- The lower end of a band, kept on the ladder. -/
def bandLower (price factor least : Price) : Price :=
  max ((price.div? factor).getD least) least

def bandUpper (price factor greatest : Price) : Price :=
  min ((price.mul? factor).getD greatest) greatest

section

variable {factor one : Nat} (widens : one < factor)
include widens

theorem mul_div_factor_lt {price : Nat} (positive : 0 < price) : price * one / factor < price := by
  apply Nat.div_lt_of_lt_mul
  rw [Nat.mul_comm factor]
  exact Nat.mul_lt_mul_of_pos_left widens positive

variable (unit : 0 < one) (price : Nat)
include unit

theorem le_mul_factor_div : price ≤ price * factor / one := by
  rw [Nat.le_div_iff_mul_le unit]
  exact Nat.mul_le_mul_left price (Nat.le_of_lt widens)

/-- A factor moves a price up if what it adds is at least one. -/
theorem lt_mul_factor_div_iff :
    price < price * factor / one ↔ one ≤ price * (factor - one) := by
  have less := Nat.mul_le_mul_left price (Nat.le_of_lt widens)
  rw [Nat.lt_iff_add_one_le, Nat.le_div_iff_mul_le unit, Nat.add_mul, Nat.mul_sub]
  omega

end

theorem toNat_one_lt {factor : Price} (widens : .one < factor) :
    10 ^ Price.decimals < factor.atoms.toNat :=
  Price.lt_iff_toNat_lt.1 widens

section

variable {price factor : Price} (positive : .zero < price) (widens : .one < factor)
include positive widens

/-- The quotient is less than the price, so it fits. -/
theorem toNat_bandLower (least : Price) : (bandLower price factor least).atoms.toNat =
    max (price.atoms.toNat * 10 ^ Price.decimals / factor.atoms.toNat) least.atoms.toNat := by
  have above := toNat_one_lt widens
  have less := mul_div_factor_lt above (Price.lt_iff_toNat_lt.1 positive)
  obtain ⟨atoms, value⟩ := Atoms.exists_toNat_eq_of_le (Nat.le_of_lt less)
  have divisor : Price.zero < factor := Price.lt_iff_toNat_lt.2 (Nat.zero_lt_of_lt above)
  have quotient : price.div? factor = some ⟨atoms⟩ := (Price.div?_eq_some_iff divisor).2 value
  rw [bandLower, quotient, Option.getD_some, Price.toNat_max, value]

omit positive widens in
/-- A product that does not fit is above the greatest price, which takes its place. -/
theorem toNat_bandUpper (price factor greatest : Price) :
    (bandUpper price factor greatest).atoms.toNat =
      min (price.atoms.toNat * factor.atoms.toNat / 10 ^ Price.decimals) greatest.atoms.toNat := by
  rw [bandUpper, Price.toNat_min]
  cases product : price.mul? factor with
  | none =>
    have large := Price.mul?_eq_none_iff.1 product
    have small := greatest.atoms.isLt
    rw [Option.getD_none]
    omega
  | some found => rw [Option.getD_some, Price.mul?_eq_some_iff.1 product]

theorem bandAround_eq {l : Ladder} {least greatest : Price} (lowest : l.minExactPrice = .ok least)
    (highest : l.maxExactPrice = .ok greatest) (spacing : Int32) :
    l.bandAround price factor spacing =
      l.tickRange (bandLower price factor least) (bandUpper price factor greatest) spacing := by
  have wide : ¬ factor ≤ .one := by
    rw [Price.lt_iff_toNat_lt] at widens
    rw [Price.le_iff_toNat_le]
    omega
  simp only [bandAround, if_neg (Price.zero_lt_iff.1 positive), if_neg wide, lowest, highest, bind,
    Except.bind, bandLower, bandUpper]

/-- The band of a price on the ladder is empty only at the least price, and there only if the factor
adds less than an atom. -/
theorem bandLower_lt_bandUpper_iff {least greatest : Price} (several : least < greatest)
    (low : least ≤ price) (high : price ≤ greatest) :
    bandLower price factor least < bandUpper price factor greatest ↔
      ¬ (price = least ∧
        price.atoms.toNat * (factor.atoms.toNat - 10 ^ Price.decimals) < 10 ^ Price.decimals) := by
  have above := toNat_one_lt widens
  have unit : 0 < 10 ^ Price.decimals := Nat.pow_pos (by decide)
  have below := mul_div_factor_lt above (Price.lt_iff_toNat_lt.1 positive)
  have reached := le_mul_factor_div above unit price.atoms.toNat
  have moved := lt_mul_factor_div_iff above unit price.atoms.toNat
  rw [Price.le_iff_toNat_le] at low high
  rw [Price.lt_iff_toNat_lt] at several
  rw [Price.lt_iff_toNat_lt, toNat_bandLower positive widens, toNat_bandUpper,
    Price.eq_iff_toNat_eq]
  generalize price.atoms.toNat * 10 ^ Price.decimals / factor.atoms.toNat = quotient at *
  generalize price.atoms.toNat * factor.atoms.toNat / 10 ^ Price.decimals = product at *
  generalize price.atoms.toNat * (factor.atoms.toNat - 10 ^ Price.decimals) = added at *
  omega

end

section

variable {l : Ladder} {least greatest : Price} (lowest : l.minExactPrice = .ok least)
  (highest : l.maxExactPrice = .ok greatest)
include lowest highest

theorem spans_bandEnds {price factor : Price}
    (ascending : bandLower price factor least < bandUpper price factor greatest) :
    l.Spans (bandLower price factor least) ∧ l.Spans (bandUpper price factor greatest) := by
  rw [spans_iff lowest highest, spans_iff lowest highest]
  have low : least ≤ bandLower price factor least := by
    rw [Price.le_iff_toNat_le, bandLower, Price.toNat_max]
    exact Nat.le_max_right _ _
  have high : bandUpper price factor greatest ≤ greatest := by
    rw [Price.le_iff_toNat_le, bandUpper, Price.toNat_min]
    exact Nat.min_le_right _ _
  simp only [Price.le_iff_toNat_le, Price.lt_iff_toNat_lt] at *
  omega

theorem bandAround_withPolicy {price factor : Price} (positive : .zero < price)
    (widens : .one < factor) (spacing : Int32) (policy : Policy) :
    (l.withPolicy policy).bandAround price factor spacing = l.bandAround price factor spacing := by
  have otherLowest : (l.withPolicy policy).minExactPrice = .ok least :=
    (exactPrice_withPolicy policy l.inBounds_minTick).trans lowest
  have otherHighest : (l.withPolicy policy).maxExactPrice = .ok greatest :=
    (exactPrice_withPolicy policy l.inBounds_maxTick).trans highest
  rw [bandAround_eq positive widens lowest highest,
    bandAround_eq positive widens otherLowest otherHighest]
  exact tickRange_withPolicy policy spacing (spans_bandEnds lowest highest)

omit lowest highest in
theorem outermostValid_one (l : Ladder) : l.OutermostValid 1 l.minTick l.maxTick where
  least_valid := ⟨l.inBounds_minTick, Int.one_dvd _⟩
  greatest_valid := ⟨l.inBounds_maxTick, Int.one_dvd _⟩
  least_le valid := Int32.le_iff_toInt_le.2 (l.inBounds_iff.1 valid.1).1
  le_greatest valid := Int32.le_iff_toInt_le.2 (l.inBounds_iff.1 valid.1).2

theorem hasRange_one {lower upper : Price} (ascending : lower < upper) (low : least ≤ lower)
    (high : upper ≤ greatest) : l.HasRange lower upper 1 := by
  have fine := pow_exponent_le_of_le lowest low
  have positive : 0 < 10 ^ l.resolution.exponent := Nat.pow_pos (by decide)
  have spanned : l.Spans lower ↔ _ := spans_iff lowest highest
  have upperSpanned : l.Spans upper ↔ _ := spans_iff lowest highest
  simp only [Price.le_iff_toNat_le] at low high spanned upperSpanned
  rw [Price.lt_iff_toNat_lt] at ascending
  refine ⟨Price.lt_iff_toNat_lt.2 (Nat.lt_of_lt_of_le positive fine),
    Price.lt_iff_toNat_lt.2 ascending, by decide, ?_, fun _ => ?_⟩
  · refine ⟨l.minTick, l.maxTick, least, greatest, l.outermostValid_one, l.minTick_lt_maxTick,
      lowest, highest, ?_, ?_⟩
    · rw [Price.lt_iff_toNat_lt]
      omega
    · rw [Price.lt_iff_toNat_lt]
      omega
  · rw [spanned, upperSpanned]
    omega

theorem exists_tickRange_one {lower price upper : Price} (ascending : lower < upper)
    (low : least ≤ lower) (high : upper ≤ greatest) (below : lower ≤ price)
    (above : price ≤ upper) :
    ∃ range floor ceil, l.tickRange lower upper 1 = .ok range ∧
      l.exactTick price .floor = .ok floor ∧ l.exactTick price .ceil = .ok ceil ∧
      floor ∈ range ∧ ceil ∈ range := by
  obtain ⟨range, made⟩ := (l.exists_tickRange_iff lower upper 1).2
    (hasRange_one lowest highest ascending low high)
  have mem {rounding : Rounding} {tick : Int32}
      (decoded : l.exactTick price rounding = .ok tick) : tick ∈ range :=
    exactTick_mem_tickRange made below above decoded
      ⟨inBounds_exactTick decoded, Int.one_dvd _⟩
  obtain ⟨floor, floorDecoded⟩ := exists_exactTick_of_tickRange made below above .floor
  obtain ⟨ceil, ceilDecoded⟩ := exists_exactTick_of_tickRange made below above .ceil
  exact ⟨range, floor, ceil, made, floorDecoded, ceilDecoded, mem floorDecoded, mem ceilDecoded⟩

end

/-- A band around a price has the range between its exact ends, rounded down and kept on the
ladder, whatever the policy. Around a price on the ladder there is a range of single ticks, with the
ticks on both sides of the price, unless the price is the least one and the factor adds less than an
atom. -/
theorem bandAround_saturates (l : Ladder) {price factor : Price} (positive : .zero < price)
    (widens : .one < factor) : ∃ least greatest, l.minExactPrice = .ok least ∧
      l.maxExactPrice = .ok greatest ∧
      (∃ lower upper : Price,
        lower.atoms.toNat =
          max (price.atoms.toNat * 10 ^ Price.decimals / factor.atoms.toNat) least.atoms.toNat ∧
        upper.atoms.toNat =
          min (price.atoms.toNat * factor.atoms.toNat / 10 ^ Price.decimals) greatest.atoms.toNat ∧
        ∀ spacing, l.bandAround price factor spacing = l.tickRange lower upper spacing ∧
          ∀ policy, (l.withPolicy policy).bandAround price factor spacing =
            l.bandAround price factor spacing) ∧
      (least ≤ price → price ≤ greatest →
        if price = least ∧
          price.atoms.toNat * (factor.atoms.toNat - 10 ^ Price.decimals) < 10 ^ Price.decimals
        then ∃ fault, l.bandAround price factor 1 = .error (.invalidInput fault)
        else ∃ range floor ceil, l.bandAround price factor 1 = .ok range ∧
          l.exactTick price .floor = .ok floor ∧ l.exactTick price .ceil = .ok ceil ∧
          floor ∈ range ∧ ceil ∈ range) := by
  obtain ⟨least, lowest, -⟩ := l.exists_exactPrice l.inBounds_minTick
  obtain ⟨greatest, highest, -⟩ := l.exists_exactPrice l.inBounds_maxTick
  have several := minExactPrice_lt lowest highest
  have lower_eq := toNat_bandLower positive widens least
  have upper_eq := toNat_bandUpper price factor greatest
  refine ⟨least, greatest, lowest, highest, ⟨_, _, lower_eq, upper_eq, ?_⟩, ?_⟩
  · intro spacing
    exact ⟨bandAround_eq positive widens lowest highest spacing,
      bandAround_withPolicy lowest highest positive widens spacing⟩
  · intro low high
    have apart := bandLower_lt_bandUpper_iff positive widens several low high
    have above := toNat_one_lt widens
    have quotient := mul_div_factor_lt above (Price.lt_iff_toNat_lt.1 positive)
    have product := le_mul_factor_div above (Nat.pow_pos (by decide)) price.atoms.toNat
    rw [bandAround_eq positive widens lowest highest]
    split
    · next narrow =>
      have empty : bandUpper price factor greatest ≤ bandLower price factor least := by
        rw [Price.le_iff_toNat_le, ← Nat.not_lt, ← Price.lt_iff_toNat_lt, apart]
        exact not_not_intro narrow
      exact ⟨_, if_pos empty⟩
    · next wide =>
      simp only [Price.le_iff_toNat_le] at low high
      apply exists_tickRange_one lowest highest (apart.2 wide) <;> rw [Price.le_iff_toNat_le]
      · omega
      · omega
      · omega
      · omega

theorem bandAround_saturates_narrow : Price.zero < ⟨10 ^ 12⟩ ∧ Price.one < ⟨10 ^ 24 + 1⟩ ∧
    ∃ fault,
      Ladder.standard.bandAround ⟨10 ^ 12⟩ ⟨10 ^ 24 + 1⟩ 1 = .error (.invalidInput fault) := by
  have positive : Price.zero < ⟨10 ^ 12⟩ := by decide
  have widens : Price.one < ⟨10 ^ 24 + 1⟩ := by decide
  have least : Ladder.standard.minExactPrice = .ok ⟨10 ^ 12⟩ := by decide +kernel
  have greatest : Ladder.standard.maxExactPrice = .ok ⟨10 ^ 62⟩ := by decide +kernel
  obtain ⟨low, high, lowest, highest, -, narrow⟩ :=
    Ladder.standard.bandAround_saturates positive widens
  obtain rfl := Except.ok.inj (lowest.symm.trans least)
  obtain rfl := Except.ok.inj (highest.symm.trans greatest)
  have failed := narrow (by decide) (by decide)
  rw [if_pos (by decide)] at failed
  exact ⟨positive, widens, failed⟩

end PriceLadder.Ladder
