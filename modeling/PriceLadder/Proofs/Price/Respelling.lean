import Mathlib.Logic.Relation
import PriceLadder.Proofs.Price.Arithmetic
import PriceLadder.Proofs.Price.Value

set_option autoImplicit false

namespace PriceLadder.Price

namespace Literal

/-- Whether the digits are moved up to atoms by no more than the greatest power of ten that fits.
Nothing is asked of digits that are moved down. -/
def InReach (literal : Literal) : Prop :=
  literal.shift ≤ Atoms.greatestExponent

instance (literal : Literal) : Decidable literal.InReach :=
  inferInstanceAs (Decidable (literal.shift ≤ Atoms.greatestExponent))

/-- One way to write the number of a literal otherwise. A plus sign is not part of a literal. -/
inductive Respelled : Literal → Literal → Prop where
  | leadingZeros (whole fraction : List Char) (exponent : Int) (count : Nat) :
      Respelled ⟨whole, fraction, exponent⟩
        ⟨List.replicate count '0' ++ whole, fraction, exponent⟩
  | trailingZeros (whole fraction : List Char) (exponent : Int) (count : Nat) :
      Respelled ⟨whole, fraction, exponent⟩
        ⟨whole, fraction ++ List.replicate count '0', exponent⟩
  /-- The point behind some digits of the fraction, and the exponent less by their number. -/
  | movedPoint (whole passed rest : List Char) (exponent : Int) :
      Respelled ⟨whole, passed ++ rest, exponent⟩
        ⟨whole ++ passed, rest, exponent - passed.length⟩

section

variable (whole fraction : List Char) (exponent : Int)

theorem significand_mk : significand ⟨whole, fraction, exponent⟩ =
    Nat.ofDigitChars 10 (whole ++ fraction) 0 :=
  rfl

theorem shift_mk : shift ⟨whole, fraction, exponent⟩ = decimals - (fraction.length - exponent) :=
  rfl

end

theorem Respelled.atoms_eq {literal other : Literal} (respelled : Respelled literal other) :
    (other.significand : ℚ) * 10 ^ other.shift = literal.significand * 10 ^ literal.shift := by
  cases respelled with
  | leadingZeros whole fraction exponent count =>
    have digits : significand ⟨List.replicate count '0' ++ whole, fraction, exponent⟩ =
        significand ⟨whole, fraction, exponent⟩ := by
      rw [significand_mk, significand_mk, List.append_assoc, Nat.ofDigitChars_append,
        Nat.ofDigitChars_replicate_zero, Nat.mul_zero]
    rw [digits]
    rfl
  | trailingZeros whole fraction exponent count =>
    have digits : significand ⟨whole, fraction ++ List.replicate count '0', exponent⟩ =
        10 ^ count * significand ⟨whole, fraction, exponent⟩ := by
      rw [significand_mk, significand_mk, ← List.append_assoc, Nat.ofDigitChars_append,
        Nat.ofDigitChars_replicate_zero]
    have moved : shift ⟨whole, fraction, exponent⟩ =
        count + shift ⟨whole, fraction ++ List.replicate count '0', exponent⟩ := by
      rw [shift_mk, shift_mk, List.length_append, List.length_replicate]
      omega
    rw [digits, moved, zpow_add₀ (by decide), zpow_natCast]
    push_cast
    ring
  | movedPoint whole passed rest exponent =>
    have digits : significand ⟨whole ++ passed, rest, exponent - passed.length⟩ =
        significand ⟨whole, passed ++ rest, exponent⟩ := by
      rw [significand_mk, significand_mk, List.append_assoc]
    have same : shift ⟨whole ++ passed, rest, exponent - passed.length⟩ =
        shift ⟨whole, passed ++ rest, exponent⟩ := by
      rw [shift_mk, shift_mk, List.length_append]
      omega
    rw [digits, same]

theorem atoms_eq_of_eqvGen {literal other : Literal}
    (chain : Relation.EqvGen Respelled literal other) :
    (literal.significand : ℚ) * 10 ^ literal.shift = other.significand * 10 ^ other.shift := by
  induction chain with
  | rel _ _ respelled => exact respelled.atoms_eq.symm
  | refl _ => rfl
  | symm _ _ _ same => exact same.symm
  | trans _ _ _ _ _ first second => exact first.trans second

end Literal

namespace Spelling

variable {s t : Spelling}

theorem value_eq_iff : s.value = t.value ↔
    (s.literal.significand : ℚ) * 10 ^ s.literal.shift =
      t.literal.significand * 10 ^ t.literal.shift := by
  have unit : (10 : ℚ) ^ decimals ≠ 0 := by positivity
  rw [← s.value_mul_pow, ← t.value_mul_pow, mul_left_inj' unit]

theorem value_eq_of_eqvGen
    (chain : Relation.EqvGen Literal.Respelled s.literal t.literal) : s.value = t.value :=
  value_eq_iff.2 (Literal.atoms_eq_of_eqvGen chain)

theorem value_ne_zero_iff : s.value ≠ 0 ↔ s.literal.significand ≠ 0 := by
  have unit : (10 : ℚ) ^ decimals ≠ 0 := by positivity
  have power : (10 : ℚ) ^ s.literal.shift ≠ 0 := zpow_ne_zero _ (by decide)
  rw [← mul_ne_zero_iff_right unit, s.value_mul_pow, mul_ne_zero_iff_right power, Nat.cast_ne_zero]

end Spelling

section

variable {text : String} {s : Spelling} (spelled : Text.trim text.toList = s.chars)
  (short : text.utf8ByteSize < 2 ^ 62) (near : s.power.natAbs < 2 ^ 62)
include spelled short near

/-- A text is read as the price that it writes, if its power of ten is one that fits. -/
theorem ofText_eq_ok_iff_inReach {p : Price} :
    ofText text = .ok p ↔
      s.literal.InReach ∧ (p.atoms.toNat : ℚ) = s.value * 10 ^ decimals := by
  have few : s.literal.digits.length < 2 ^ 62 :=
    Nat.lt_of_le_of_lt (length_digits_le spelled) short
  have powerFits : Literal.FitsInt64 s.power := by
    constructor <;> omega
  obtain ⟨placesFit, shiftFits⟩ := s.literal.fitsInt64_of_near few near
  have found := Literal.read_of_trim_eq s spelled powerFits
  have scaled : s.literal.toAtoms .refuse = .ok p.atoms ↔
      s.literal.shift ≤ Atoms.greatestExponent ∧
        (p.atoms.toNat : ℚ) = s.value * 10 ^ decimals := by
    rw [s.literal.toAtoms_refuse_eq_ok_iff_shift s.isDigit, and_iff_right placesFit,
      and_iff_right shiftFits, ← Powers.natCast_eq_mul_zpow_iff, ← s.value_mul_pow]
  rw [ofText_eq_ok_iff, Literal.InReach, ← scaled, found]
  simp

/-- A number that is not zero needs no other limit than that of its atoms. -/
theorem ofText_eq_ok_iff_of_value_ne_zero (significant : s.value ≠ 0) {p : Price} :
    ofText text = .ok p ↔ (p.atoms.toNat : ℚ) = s.value * 10 ^ decimals := by
  rw [ofText_eq_ok_iff_inReach spelled short near]
  refine and_iff_right_of_imp fun value => ?_
  rw [s.value_mul_pow, Powers.natCast_eq_mul_zpow_iff] at value
  exact (s.literal.shift_bounds s.isDigit (Spelling.value_ne_zero_iff.1 significant) value).2

theorem ofText_eq_ok_iff_of_value_eq_zero (none : s.value = 0) {p : Price} :
    ofText text = .ok p ↔ s.literal.InReach ∧ p = zero := by
  rw [ofText_eq_ok_iff_inReach spelled short near, none, zero_mul, Nat.cast_eq_zero,
    eq_iff_toNat_eq]
  rfl

end

/-- Whether two texts are read alike: as the same price, or neither as a price. -/
def ReadAlike (first second : String) : Prop :=
  ∀ p, ofText first = .ok p ↔ ofText second = .ok p

/-- Texts that write the same number are read alike, and so are texts that write it with more zeros
or with the point elsewhere. Zero is the exception: it is read where the power of ten from its
digits to atoms fits, so texts that write zero are read alike if that power fits for all of them or
for none. -/
theorem readAlike_iff {first second : String} {s t : Spelling}
    (spelled : Text.trim first.toList = s.chars) (otherSpelled : Text.trim second.toList = t.chars)
    (short : first.utf8ByteSize < 2 ^ 62) (otherShort : second.utf8ByteSize < 2 ^ 62)
    (near : s.power.natAbs < 2 ^ 62) (otherNear : t.power.natAbs < 2 ^ 62)
    (same : s.value = t.value ∨ Relation.EqvGen Literal.Respelled s.literal t.literal) :
    ReadAlike first second ↔ (s.value = 0 → (s.literal.InReach ↔ t.literal.InReach)) := by
  have value_eq : s.value = t.value := same.elim id Spelling.value_eq_of_eqvGen
  unfold ReadAlike
  by_cases none : s.value = 0
  · have otherNone : t.value = 0 := value_eq ▸ none
    simp only [ofText_eq_ok_iff_of_value_eq_zero spelled short near none,
      ofText_eq_ok_iff_of_value_eq_zero otherSpelled otherShort otherNear otherNone]
    constructor
    · intro alike _
      simpa using alike zero
    · intro reach p
      rw [reach none]
  · have otherSome : t.value ≠ 0 := value_eq ▸ none
    simp only [ofText_eq_ok_iff_of_value_ne_zero spelled short near none,
      ofText_eq_ok_iff_of_value_ne_zero otherSpelled otherShort otherNear otherSome, value_eq]
    simp [otherSome]

theorem readAlike_iff_scientific : ReadAlike "125e-9" " +0.0000001250" ∧
    ofText " +0.0000001250" = .ok ⟨125 * 10 ^ 15⟩ := by
  let s : Spelling := {
    plus := false
    whole := ['1', '2', '5']
    fraction := none
    exponent := some ⟨'e', ⟨.minus, ['9'], List.all_eq_true.1 rfl, by decide⟩, .inl rfl⟩
    isDigit := List.all_eq_true.1 (by decide +kernel)
    nonempty := by decide }
  let t : Spelling := {
    plus := true
    whole := ['0']
    fraction := some "0000001250".toList
    exponent := none
    isDigit := List.all_eq_true.1 (by decide +kernel)
    nonempty := by decide }
  have same : s.value = t.value := by
    have digits : s.literal.significand = 125 ∧ t.literal.significand = 1250 := by decide +kernel
    have powers : s.literal.shift = 15 ∧ t.literal.shift = 14 := by decide +kernel
    rw [Spelling.value_eq_iff, digits.1, digits.2, powers.1, powers.2]
    norm_num
  have alike : ReadAlike "125e-9" " +0.0000001250" :=
    (readAlike_iff (s := s) (t := t) (by decide +kernel) (by decide +kernel) (by decide +kernel)
      (by decide +kernel) (by decide +kernel) (by decide +kernel) (.inl same)).2
      fun _ => iff_of_true (by decide +kernel) (by decide +kernel)
  exact ⟨alike, (alike _).1 (by decide +kernel)⟩

/-- Zero with an exponent of 54 is refused as too large. -/
theorem not_readAlike_zero : ∃ s t : Spelling, Text.trim "0".toList = s.chars ∧
    Text.trim "0e54".toList = t.chars ∧ s.value = t.value ∧
    ofText "0" = .ok zero ∧
    ofText "0e54" = .error (.invalidInput (.badPriceText .tooLarge "0e54")) ∧
    ¬ ReadAlike "0" "0e54" := by
  let s : Spelling := {
    plus := false
    whole := ['0']
    fraction := none
    exponent := none
    isDigit := List.all_eq_true.1 (by decide +kernel)
    nonempty := by decide }
  let t : Spelling := { s with
    exponent := some ⟨'e', ⟨.none, ['5', '4'], List.all_eq_true.1 rfl, by decide⟩, .inl rfl⟩ }
  have same : s.value = t.value := by
    have digits : s.literal.significand = 0 ∧ t.literal.significand = 0 := by decide +kernel
    rw [Spelling.value_eq_iff, digits.1, digits.2, Nat.cast_zero, zero_mul, zero_mul]
  have read : ofText "0" = .ok zero := by decide +kernel
  have refused : ofText "0e54" = .error (.invalidInput (.badPriceText .tooLarge "0e54")) := by
    decide +kernel
  refine ⟨s, t, by decide +kernel, by decide +kernel, same, read, refused, fun alike => ?_⟩
  have both := (alike zero).1 read
  rw [refused] at both
  cases both

end PriceLadder.Price
