import Mathlib.Tactic.Ring
import PriceLadder.Price.Conversion
import PriceLadder.Proofs.Atoms
import PriceLadder.Proofs.Price.Spelling

set_option autoImplicit false

namespace PriceLadder.Price

theorem all_zero_iff_ofDigitChars_eq_zero {digits : List Char}
    (isDigit : ∀ c ∈ digits, c.isDigit) :
    digits.all (· = '0') = true ↔ Nat.ofDigitChars 10 digits 0 = 0 := by
  induction digits using List.reverseRecOn with
  | nil => simp
  | append_singleton front c ih =>
    have lastDigit := isDigit c (by simp)
    have last : c = '0' ↔ c.toNat - '0'.toNat = 0 := by
      constructor
      · rintro rfl
        rfl
      · intro zero
        rw [← digitChar_toNat_sub lastDigit, zero]
        rfl
    rw [List.all_append, Bool.and_eq_true, ih fun d member => isDigit d (by simp [member]),
      ofDigitChars_concat]
    simp only [List.all_cons, List.all_nil, Bool.and_true, decide_eq_true_eq, last]
    omega

namespace Literal

def digits (literal : Literal) : List Char :=
  literal.whole ++ literal.fraction

/-- The number that the digits write, whatever the point and the exponent. -/
def significand (literal : Literal) : Nat :=
  Nat.ofDigitChars 10 literal.digits 0

/-- The power of ten from the digits to atoms. -/
def shift (literal : Literal) : Int :=
  decimals - (literal.fraction.length - literal.exponent)

theorem orTooLarge_eq_ok_iff {found : Option Atoms} {atoms : Atoms} :
    orTooLarge found = .ok atoms ↔ found = some atoms := by
  cases found <;> simp [orTooLarge]

theorem checkInt64_eq_ok_iff {n m : Int} : checkInt64 n = .ok m ↔ FitsInt64 n ∧ n = m := by
  unfold checkInt64
  split
  · next within =>
    have fits : FitsInt64 n := ⟨within.1, Int.lt_add_one_of_le within.2⟩
    rw [Except.ok.injEq, and_iff_right fits]
  · next beyond =>
    have large : ¬ FitsInt64 n := fun fits => beyond ⟨fits.1, Int.le_of_lt_add_one fits.2⟩
    simp [large]

/-- Scaling up needs no more room than its result: the digits alone are never too large for it. -/
theorem scaleUp_eq_ok_iff {digits : List Char} {shift : Int} {atoms : Atoms} :
    scaleUp digits shift = .ok atoms ↔ 0 ≤ shift ∧ shift ≤ Atoms.greatestExponent ∧
      atoms.toNat = Nat.ofDigitChars 10 digits 0 * 10 ^ shift.toNat := by
  rw [scaleUp, orTooLarge_eq_ok_iff]
  constructor
  · intro found
    obtain ⟨factor, power, rest⟩ := Option.bind_eq_some_iff.1 found
    obtain ⟨value, fits, product⟩ := Option.bind_eq_some_iff.1 rest
    obtain ⟨low, high, factor_eq⟩ := Atoms.pow10?_eq_some_iff.1 power
    rw [Atoms.ofDigits?, Atoms.ofNat?_eq_some_iff] at fits
    rw [Atoms.mul?_eq_some_iff, fits, factor_eq] at product
    exact ⟨low, high, product⟩
  · rintro ⟨low, high, value_eq⟩
    have positive : 0 < 10 ^ shift.toNat := Nat.pow_pos (by decide)
    have digits_le : Nat.ofDigitChars 10 digits 0 ≤ atoms.toNat := by
      rw [value_eq]
      exact Nat.le_mul_of_pos_right _ positive
    obtain ⟨value, fits⟩ := Atoms.exists_toNat_eq_of_le digits_le
    obtain ⟨factor, factor_eq⟩ : ∃ factor : Atoms, factor.toNat = 10 ^ shift.toNat :=
      ⟨_, Atoms.toNat_ofNat_pow (by omega)⟩
    have power := Atoms.pow10?_eq_some_iff.2 ⟨low, high, factor_eq⟩
    have read : Atoms.ofDigits? digits = some value := Atoms.ofNat?_eq_some_iff.2 fits
    have product : value.mul? factor = some atoms := by
      rw [Atoms.mul?_eq_some_iff, fits, factor_eq]
      exact value_eq
    rw [power, Option.bind_eq_bind, Option.bind_some, read]
    exact product

/-- The digits that are kept and those that are cut off, as numbers. Where more are to be cut off
than there are, none is kept. -/
theorem kept_cut {digits : List Char} (isDigit : ∀ c ∈ digits, c.isDigit) (dropped : Nat) :
    Nat.ofDigitChars 10 digits 0 =
        10 ^ dropped * Nat.ofDigitChars 10 (digits.take (digits.length - dropped)) 0 +
          Nat.ofDigitChars 10 (digits.drop (digits.length - dropped)) 0 ∧
      Nat.ofDigitChars 10 (digits.drop (digits.length - dropped)) 0 <
        10 ^ min dropped digits.length := by
  have length : (digits.drop (digits.length - dropped)).length = min dropped digits.length := by
    rw [List.length_drop]
    omega
  have small := ofDigitChars_lt fun c member =>
    isDigit c (List.mem_of_mem_drop (i := digits.length - dropped) member)
  have joined := ofDigitChars_append_eq (digits.take (digits.length - dropped))
    (digits.drop (digits.length - dropped))
  rw [List.take_append_drop] at joined
  rw [length] at small joined
  refine ⟨?_, small⟩
  rcases Nat.le_total dropped digits.length with enough | few
  · rw [joined, Nat.min_eq_left enough]
  · have none : digits.take (digits.length - dropped) = [] := by
      rw [Nat.sub_eq_zero_of_le few, List.take_zero]
    rw [joined, none, Nat.ofDigitChars_nil, Nat.mul_zero, Nat.mul_zero]

theorem scaleDown_refuse_eq_ok_iff {digits : List Char} (isDigit : ∀ c ∈ digits, c.isDigit)
    {dropped : Nat} {atoms : Atoms} : scaleDown .refuse digits dropped = .ok atoms ↔
      atoms.toNat * 10 ^ dropped = Nat.ofDigitChars 10 digits 0 := by
  have zeros := all_zero_iff_ofDigitChars_eq_zero fun c member =>
    isDigit c (List.mem_of_mem_drop (i := digits.length - dropped) member)
  obtain ⟨joined, small⟩ := kept_cut isDigit dropped
  have rest_lt := Nat.lt_of_lt_of_le small
    (Nat.pow_le_pow_right (by decide) (Nat.min_le_left dropped digits.length))
  have positive : 0 < 10 ^ dropped := Nat.pow_pos (by decide)
  rw [scaleDown, joined, Nat.mul_comm atoms.toNat]
  split
  · next exactly =>
    rw [zeros.1 exactly, Nat.add_zero, Nat.mul_right_inj (Nat.ne_of_gt positive),
      orTooLarge_eq_ok_iff, Atoms.ofDigits?, Atoms.ofNat?_eq_some_iff]
  · next inexact =>
    simp only [reduceCtorEq, false_iff]
    intro divides
    have rest := congrArg (· % 10 ^ dropped) divides
    simp only [Nat.mul_mod_right, Nat.mul_add_mod, Nat.mod_eq_of_lt rest_lt] at rest
    exact inexact (zeros.2 rest.symm)

theorem toAtoms_eq_ok_iff {excess : Excess} {literal : Literal} {atoms : Atoms} :
    toAtoms excess literal = .ok atoms ↔
      FitsInt64 (literal.fraction.length - literal.exponent) ∧ FitsInt64 literal.shift ∧
      (if 0 ≤ literal.shift then scaleUp literal.digits literal.shift
        else scaleDown excess literal.digits (-literal.shift).toNat) = .ok atoms := by
  simp only [toAtoms, Outcome.bind_eq_ok_iff, checkInt64_eq_ok_iff]
  constructor
  · rintro ⟨_, ⟨placesFit, rfl⟩, _, ⟨shiftFits, rfl⟩, found⟩
    exact ⟨placesFit, shiftFits, found⟩
  · rintro ⟨placesFit, shiftFits, found⟩
    exact ⟨_, ⟨placesFit, rfl⟩, _, ⟨shiftFits, rfl⟩, found⟩

/-- A number of atoms lies within the power of ten of the significand only if that power is neither
beyond the word nor beyond the digits. -/
theorem shift_bounds (literal : Literal) (isDigit : ∀ c ∈ literal.digits, c.isDigit)
    (significant : literal.significand ≠ 0) {atoms : Atoms}
    (scaled : atoms.toNat * 10 ^ (-literal.shift).toNat =
      literal.significand * 10 ^ literal.shift.toNat) :
    -literal.digits.length < literal.shift ∧ literal.shift ≤ Atoms.greatestExponent := by
  have digits : literal.significand < 10 ^ literal.digits.length := ofDigitChars_lt isDigit
  rcases Int.le_total 0 literal.shift with up | down
  · have noDown : (-literal.shift).toNat = 0 := by omega
    rw [noDown, Nat.pow_zero, Nat.mul_one] at scaled
    have power : 10 ^ literal.shift.toNat ≤ atoms.toNat := by
      rw [scaled]
      exact Nat.le_mul_of_pos_left _ (Nat.pos_of_ne_zero significant)
    have exponent := Atoms.exponent_le_of_pow_le power
    have nonempty : 0 < literal.digits.length := by
      refine Nat.pos_of_ne_zero fun none => ?_
      rw [none, Nat.pow_zero] at digits
      omega
    omega
  · have noUp : literal.shift.toNat = 0 := by omega
    rw [noUp, Nat.pow_zero, Nat.mul_one] at scaled
    have positive : 0 < atoms.toNat := by
      refine Nat.pos_of_ne_zero fun none => significant ?_
      rw [← scaled, none, Nat.zero_mul]
    have power : 10 ^ (-literal.shift).toNat < 10 ^ literal.digits.length := by
      refine Nat.lt_of_le_of_lt ?_ digits
      rw [← scaled]
      exact Nat.le_mul_of_pos_left _ positive
    have exponent := (Nat.pow_lt_pow_iff_right (by decide)).1 power
    have most : 0 ≤ Atoms.greatestExponent := Nat.zero_le _
    omega

/-- What 64 bits are checked for fits them while digits are fewer and the exponent is nearer than
`2 ^ 62`. -/
theorem fitsInt64_of_near (literal : Literal) (short : literal.digits.length < 2 ^ 62)
    (near : literal.exponent.natAbs < 2 ^ 62) :
    FitsInt64 (literal.fraction.length - literal.exponent) ∧ FitsInt64 literal.shift := by
  have places : literal.fraction.length ≤ literal.digits.length := by
    simp [digits]
  have decimals_eq : decimals = 24 := rfl
  unfold shift
  exact ⟨⟨by omega, by omega⟩, ⟨by omega, by omega⟩⟩

theorem toAtoms_refuse_eq_ok_iff_shift (literal : Literal)
    (isDigit : ∀ c ∈ literal.digits, c.isDigit) {atoms : Atoms} :
    toAtoms .refuse literal = .ok atoms ↔
      FitsInt64 (literal.fraction.length - literal.exponent) ∧ FitsInt64 literal.shift ∧
      literal.shift ≤ Atoms.greatestExponent ∧
      atoms.toNat * 10 ^ (-literal.shift).toNat =
        literal.significand * 10 ^ literal.shift.toNat := by
  have scaled : (if 0 ≤ literal.shift then scaleUp literal.digits literal.shift
      else scaleDown .refuse literal.digits (-literal.shift).toNat) = .ok atoms ↔
      literal.shift ≤ Atoms.greatestExponent ∧ atoms.toNat * 10 ^ (-literal.shift).toNat =
        literal.significand * 10 ^ literal.shift.toNat := by
    split
    · next up =>
      have noDown : (-literal.shift).toNat = 0 := by omega
      rw [scaleUp_eq_ok_iff, and_iff_right up, noDown, Nat.pow_zero, Nat.mul_one]
      rfl
    · next down =>
      have noUp : literal.shift.toNat = 0 := by omega
      have small : literal.shift ≤ Atoms.greatestExponent := by omega
      rw [scaleDown_refuse_eq_ok_iff isDigit, noUp, Nat.pow_zero, Nat.mul_one, and_iff_right small]
      rfl
  rw [toAtoms_eq_ok_iff, scaled]

/-- The atoms of a literal that writes more than nothing are those of its exact value. -/
theorem toAtoms_refuse_eq_ok_iff (literal : Literal) (isDigit : ∀ c ∈ literal.digits, c.isDigit)
    (short : literal.digits.length < 2 ^ 62) (significant : literal.significand ≠ 0)
    {atoms : Atoms} : toAtoms .refuse literal = .ok atoms ↔
      atoms.toNat * 10 ^ (-literal.shift).toNat =
        literal.significand * 10 ^ literal.shift.toNat := by
  rw [toAtoms_refuse_eq_ok_iff_shift literal isDigit]
  constructor
  · rintro ⟨-, -, -, same⟩
    exact same
  · intro same
    have bounds := literal.shift_bounds isDigit significant same
    have places :
        (literal.fraction.length - literal.exponent : Int) = decimals - literal.shift := by
      unfold shift
      omega
    have most : Atoms.greatestExponent = 77 := rfl
    have decimals_eq : decimals = 24 := rfl
    rw [places]
    exact ⟨⟨by omega, by omega⟩, ⟨by omega, by omega⟩, bounds.2, same⟩

end Literal

theorem read_eq_ok_iff {excess : Literal.Excess} {text : String} {p : Price} :
    read excess text = .ok p ↔ ∃ literal, Literal.read text.toList = .ok literal ∧
      literal.toAtoms excess = .ok p.atoms := by
  have wrapped : read excess text = .ok p ↔ ofChars excess text.toList = .ok p := by
    rw [read]
    cases ofChars excess text.toList <;> simp [Except.mapError]
  simp only [wrapped, ofChars, Outcome.bind_eq_ok_iff, Outcome.map_eq_ok_iff]
  constructor
  · rintro ⟨literal, found, atoms, scaled, rfl⟩
    exact ⟨literal, found, scaled⟩
  · rintro ⟨literal, found, scaled⟩
    exact ⟨literal, found, p.atoms, scaled, rfl⟩

theorem read_cases (excess : Literal.Excess) (text : String) :
    (∃ p, read excess text = .ok p) ∨
      ∃ fault, read excess text = .error (.invalidInput (.badPriceText fault text)) := by
  rw [read]
  cases ofChars excess text.toList with
  | ok p => exact .inl ⟨p, rfl⟩
  | error fault => exact .inr ⟨fault, rfl⟩

theorem ofText_eq_ok_iff {text : String} {p : Price} : ofText text = .ok p ↔
    ∃ literal, Literal.read text.toList = .ok literal ∧
      literal.toAtoms .refuse = .ok p.atoms :=
  read_eq_ok_iff

theorem ofText_cases (text : String) :
    (∃ p, ofText text = .ok p) ∨
      ∃ fault, ofText text = .error (.invalidInput (.badPriceText fault text)) :=
  read_cases .refuse text

end PriceLadder.Price
