import PriceLadder.Proofs.Curve.Inverse

set_option autoImplicit false

namespace PriceLadder.Resolution

def DecadeFits (r : Resolution) (tick : Int64) : Prop :=
  -2 ^ 31 ≤ r.decade tick.toInt ∧ r.decade tick.toInt < 2 ^ 31

/-- Whether the price of a tick is a whole number of atoms that fits a word. -/
def Priced (r : Resolution) (tick : Int) : Prop :=
  r.Addressable tick ∧ r.curve tick < 2 ^ 256

/-- Whether a tick is priced as the curve has it, and found again from its price. -/
structure Faithful (r : Resolution) (tick : Int64) : Prop where
  exists_iff : (∃ price, r.exactPrice? tick = some price) ↔ r.Priced tick.toInt
  atoms {price : Price} : r.exactPrice? tick = some price → price.atoms.toNat = r.curve tick.toInt
  found {price : Price} : r.exactPrice? tick = some price →
    ∀ rounding, r.exactTick? price rounding = some tick

section

variable {r : Resolution} {tick : Int64}

theorem decadeOfTick_of_fits (fits : r.DecadeFits tick) :
    (r.decadeOfTick tick).toInt = r.decade tick.toInt :=
  Int32.toInt_ofInt_of_le fits.1 fits.2

/-- No tick in a decade beyond 32 bits has a price: it would be too fine below them, and too large
above them. -/
theorem fits_of_priced (priced : r.Priced tick.toInt) : r.DecadeFits tick := by
  obtain ⟨addressable, small⟩ := priced
  have base_le := r.pow_baseExponent_le_curve tick.toInt
  have below : 10 ^ (baseExponent (r.decade tick.toInt)).toNat < 10 ^ 78 :=
    Nat.lt_trans (Nat.lt_of_le_of_lt base_le small) (by decide)
  have exponent := (Nat.pow_lt_pow_iff_right (by decide)).1 below
  have decimals : Price.decimals = 24 := rfl
  unfold Addressable stepExponent at addressable
  unfold baseExponent at exponent
  constructor
  · omega
  · omega

theorem exists_exactPrice?_iff_place :
    (∃ price, r.exactPrice? tick = some price) ↔ r.Priced (r.place tick) := by
  simp only [exactPrice?_eq_some_iff_place]
  constructor
  · rintro ⟨price, addressable, atoms⟩
    exact ⟨addressable, by rw [← atoms]; exact price.atoms.isLt⟩
  · rintro ⟨addressable, small⟩
    obtain ⟨atoms, value⟩ := Atoms.exists_toNat_eq small
    exact ⟨⟨atoms⟩, addressable, value⟩

theorem faithful_of_fits (fits : r.DecadeFits tick) : r.Faithful tick := by
  have place := r.place_eq_toInt (decadeOfTick_of_fits fits)
  constructor
  · rw [exists_exactPrice?_iff_place, place]
  · intro price priced
    rw [exactPrice?_eq_some_iff_place, place] at priced
    exact priced.2
  · intro price priced rounding
    rw [exactPrice?_eq_some_iff_place, place] at priced
    obtain ⟨addressable, atoms⟩ := priced
    have fine : 10 ^ r.exponent ≤ price.atoms.toNat := by
      rw [atoms]
      exact r.pow_exponent_le_curve addressable
    obtain ⟨found, decoded, value⟩ := r.exists_exactTick? rounding fine
    rw [atoms, tickAt_curve r rounding addressable] at value
    rw [decoded, Int64.toInt_inj.1 value]

/-- A price given to a tick in a decade beyond 32 bits is wrong: such a tick is priced right where
it is given none. -/
theorem faithful_iff : r.Faithful tick ↔ r.DecadeFits tick ∨ r.exactPrice? tick = none := by
  constructor
  · intro faithful
    cases given : r.exactPrice? tick with
    | none => exact .inr rfl
    | some price => exact .inl (fits_of_priced (faithful.exists_iff.1 ⟨price, given⟩))
  · intro fitsOrNone
    by_cases fits : r.DecadeFits tick
    · exact faithful_of_fits fits
    · have given := fitsOrNone.resolve_left fits
      have notPriced : ¬ r.Priced tick.toInt := fun priced => fits (fits_of_priced priced)
      constructor
      · simp [given, notPriced]
      · simp [given]
      · simp [given]

/-- Ticks `2 ^ 32` decades apart stand for the same tick. -/
theorem exactPrice?_eq_of_apart {other : Int64}
    (apart : other.toInt = tick.toInt + 2 ^ 32 * r.width) :
    r.exactPrice? other = r.exactPrice? tick := by
  have width := r.width_pos
  have decade : r.decadeOfTick other = r.decadeOfTick tick := by
    apply Int32.toInt_inj.1
    rw [decadeOfTick, decadeOfTick, Int32.toInt_ofInt, Int32.toInt_ofInt, apart,
      Int.add_mul_ediv_right _ _ (by omega)]
    exact Int.add_bmod_right _ _
  have offset : r.offsetInDecade other = r.offsetInDecade tick := by
    rw [offsetInDecade, offsetInDecade, apart, Int.add_mul_emod_self_right]
  rw [exactPrice?, exactPrice?, decade, offset]

end

/-- Ticks are priced right, and told apart by their prices, where their decade fits 32 bits, and
elsewhere only where they are given no price. -/
theorem exactPrice?_faithful (r : Resolution) (tick : Int64) :
    (r.Faithful tick ↔ r.DecadeFits tick ∨ r.exactPrice? tick = none) ∧
    ∀ other price, r.DecadeFits tick → r.DecadeFits other →
      r.exactPrice? tick = some price → r.exactPrice? other = some price → tick = other := by
  refine ⟨faithful_iff, fun other price fits otherFits priced otherPriced => ?_⟩
  have found := (faithful_of_fits fits).found priced .floor
  have otherFound := (faithful_of_fits otherFits).found otherPriced .floor
  rw [found] at otherFound
  exact Option.some.inj otherFound

/-- A tick far above all prices has the price of tick zero, which is the one found from it. -/
theorem exactPrice?_wraps :
    standard.exactPrice? 38654705664000000 = some .one ∧
    standard.exactPrice? 0 = some .one ∧
    ¬ standard.Priced (38654705664000000 : Int64).toInt ∧
    ∀ rounding, standard.exactTick? .one rounding = some 0 := by
  have first : standard.exactPrice? 0 = some .one := by decide +kernel
  have apart : (38654705664000000 : Int64).toInt =
      (0 : Int64).toInt + 2 ^ 32 * (standard.width : Nat) := by decide
  have far : ¬ standard.DecadeFits 38654705664000000 := by
    unfold DecadeFits
    decide
  have near : standard.DecadeFits 0 := ⟨by decide, by decide⟩
  refine ⟨(exactPrice?_eq_of_apart apart).trans first, first, fun priced => ?_,
    (faithful_of_fits near).found first⟩
  exact far (fits_of_priced priced)

end PriceLadder.Resolution
