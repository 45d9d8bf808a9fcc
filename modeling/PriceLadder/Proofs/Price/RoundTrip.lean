import PriceLadder.Proofs.Price.Arithmetic

set_option autoImplicit false

namespace PriceLadder.Price

/-- Whether an operation gives the price of `n` atoms, and none if they do not fit. -/
def Yields (found : Option Price) (n : Nat) : Prop :=
  (n < 2 ^ 256 → ∃ price, found = some price ∧ price.atoms.toNat = n) ∧
    (2 ^ 256 ≤ n → found = none)

theorem yields_ofNat? (n : Nat) : Yields ((Atoms.ofNat? n).map mk) n := by
  constructor
  · intro fits
    obtain ⟨atoms, value⟩ := Atoms.exists_toNat_eq fits
    exact ⟨⟨atoms⟩, ofNat?_map_eq_some_iff.2 value, value⟩
  · intro large
    rw [Atoms.ofNat?_eq_none_iff.2 large]
    rfl

theorem Yields.exists_of_le {found : Option Price} {n : Nat} {price : Price}
    (yields : Yields found n) (le : n ≤ price.atoms.toNat) :
    ∃ smaller, found = some smaller ∧ smaller.atoms.toNat = n :=
  yields.1 (Nat.lt_of_le_of_lt le price.atoms.isLt)

theorem yields_mul? (a b : Price) :
    Yields (a.mul? b) (a.atoms.toNat * b.atoms.toNat / 10 ^ decimals) := by
  rw [mul?_eq]
  exact yields_ofNat? _

theorem yields_div? (a : Price) {b : Price} (positive : zero < b) :
    Yields (a.div? b) (a.atoms.toNat * 10 ^ decimals / b.atoms.toNat) := by
  rw [div?_eq a positive]
  exact yields_ofNat? _

theorem div?_zero (a : Price) : a.div? zero = none :=
  rfl

theorem mul?_comm (a b : Price) : a.mul? b = b.mul? a := by
  rw [mul?_eq, mul?_eq, Nat.mul_comm]

theorem exists_mul?_of_le {a b lower lowerFactor product : Price} (le : lower ≤ a)
    (factor_le : lowerFactor ≤ b) (multiplied : a.mul? b = some product) :
    ∃ smaller, lower.mul? lowerFactor = some smaller ∧ smaller ≤ product := by
  have smaller_le :
      lower.atoms.toNat * lowerFactor.atoms.toNat / 10 ^ decimals ≤ product.atoms.toNat := by
    rw [mul?_eq_some_iff.1 multiplied]
    apply Nat.div_le_div_right
    exact Nat.mul_le_mul (le_iff_toNat_le.1 le) (le_iff_toNat_le.1 factor_le)
  obtain ⟨smaller, found, value⟩ := (yields_mul? lower lowerFactor).exists_of_le smaller_le
  refine ⟨smaller, found, ?_⟩
  rw [le_iff_toNat_le, value]
  exact smaller_le

section

variable {a b s : Nat}

/-- Rounding down twice, after a product and after the quotient that undoes it, does not lead above
the number. -/
theorem mul_div_mul_div_le : a * b / s * s / b ≤ a := by
  apply Nat.div_le_of_le_mul
  rw [Nat.mul_comm b]
  exact Nat.div_mul_le_self _ _

/-- The first rounding takes less than `s` from the product, and the second one less than `b`. -/
theorem sub_mul_div_mul_div_lt (factor : 0 < b) (unit : 0 < s) :
    (a - a * b / s * s / b) * b < s + b := by
  have first : a * b < a * b / s * s + s := Nat.lt_div_mul_add unit
  have second : a * b / s * s < a * b / s * s / b * b + b := Nat.lt_div_mul_add factor
  rw [Nat.sub_mul]
  omega

theorem mul_div_mul_div_of_dvd (factor : 0 < b) (divides : s ∣ a * b) :
    a * b / s * s / b = a := by
  rw [Nat.div_mul_cancel divides, Nat.mul_div_cancel _ factor]

end

theorem exists_div?_of_mul? {a b product : Price} (positive : zero < b)
    (multiplied : a.mul? b = some product) :
    ∃ back, product.div? b = some back ∧ back ≤ a ∧
      (a.atoms.toNat - back.atoms.toNat) * b.atoms.toNat < 10 ^ decimals + b.atoms.toNat ∧
      (10 ^ decimals ∣ a.atoms.toNat * b.atoms.toNat → back = a) := by
  have factor : 0 < b.atoms.toNat := lt_iff_toNat_lt.1 positive
  have unit : 0 < 10 ^ decimals := Nat.pow_pos (by decide)
  have yields := yields_div? product positive
  rw [mul?_eq_some_iff.1 multiplied] at yields
  obtain ⟨back, found, value⟩ := yields.exists_of_le mul_div_mul_div_le
  refine ⟨back, found, ?_, ?_, fun divides => ?_⟩
  · rw [le_iff_toNat_le, value]
    exact mul_div_mul_div_le
  · rw [value]
    exact sub_mul_div_mul_div_lt factor unit
  · rw [eq_iff_toNat_eq, value]
    exact mul_div_mul_div_of_dvd factor divides

theorem exists_mul?_of_div? {a b quotient : Price} (positive : zero < b)
    (divided : a.div? b = some quotient) :
    ∃ back, quotient.mul? b = some back ∧ back ≤ a ∧
      (a.atoms.toNat - back.atoms.toNat) * 10 ^ decimals < b.atoms.toNat + 10 ^ decimals := by
  have factor : 0 < b.atoms.toNat := lt_iff_toNat_lt.1 positive
  have unit : 0 < 10 ^ decimals := Nat.pow_pos (by decide)
  have yields := yields_mul? quotient b
  rw [(div?_eq_some_iff positive).1 divided] at yields
  obtain ⟨back, found, value⟩ := yields.exists_of_le mul_div_mul_div_le
  refine ⟨back, found, ?_, ?_⟩
  · rw [le_iff_toNat_le, value]
    exact mul_div_mul_div_le
  · rw [value]
    exact sub_mul_div_mul_div_lt unit factor

/-- Products and quotients are the exact ones rounded down, and missing only where these do not fit
or the divisor is nothing. A price that is multiplied and divided by the same factor, in either
order, is given back but for the two roundings. -/
theorem arithmetic_rounds_down (a b : Price) :
    Yields (a.mul? b) (a.atoms.toNat * b.atoms.toNat / 10 ^ decimals) ∧
    a.div? zero = none ∧
    (zero < b → Yields (a.div? b) (a.atoms.toNat * 10 ^ decimals / b.atoms.toNat)) ∧
    a.mul? b = b.mul? a ∧
    (∀ lower lowerFactor product, lower ≤ a → lowerFactor ≤ b → a.mul? b = some product →
      ∃ smaller, lower.mul? lowerFactor = some smaller ∧ smaller ≤ product) ∧
    (zero < b → ∀ product, a.mul? b = some product →
      ∃ back, product.div? b = some back ∧ back ≤ a ∧
        (a.atoms.toNat - back.atoms.toNat) * b.atoms.toNat < 10 ^ decimals + b.atoms.toNat ∧
        (10 ^ decimals ∣ a.atoms.toNat * b.atoms.toNat → back = a)) ∧
    (zero < b → ∀ quotient, a.div? b = some quotient →
      ∃ back, quotient.mul? b = some back ∧ back ≤ a ∧
        (a.atoms.toNat - back.atoms.toNat) * 10 ^ decimals < b.atoms.toNat + 10 ^ decimals) := by
  refine ⟨yields_mul? a b, div?_zero a, yields_div? a, mul?_comm a b, ?_, ?_, ?_⟩
  · intro lower lowerFactor product le factor_le multiplied
    exact exists_mul?_of_le le factor_le multiplied
  · intro positive product multiplied
    exact exists_div?_of_mul? positive multiplied
  · intro positive quotient divided
    exact exists_mul?_of_div? positive divided

end PriceLadder.Price
