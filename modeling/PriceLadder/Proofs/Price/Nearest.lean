import Mathlib.Algebra.Order.Floor.Semifield
import Mathlib.Data.BitVec
import Mathlib.Data.Rat.Floor
import PriceLadder.Proofs.Price.Arithmetic
import PriceLadder.Proofs.Price.Value

set_option autoImplicit false

namespace PriceLadder.Price

/-- The whole number nearest to `n / d`, the upper one of two. -/
def nearestQuotient (n d : Nat) : Nat :=
  (2 * n + d) / (2 * d)

section

variable {whole rest d : Nat}

theorem nearestQuotient_below (below : 2 * rest < d) :
    nearestQuotient (d * whole + rest) d = whole := by
  have split : 2 * (d * whole + rest) + d = 2 * rest + d + 2 * d * whole := by ring
  rw [nearestQuotient, split, Nat.add_mul_div_left _ _ (by omega), Nat.div_eq_of_lt (by omega),
    Nat.zero_add]

theorem nearestQuotient_above (above : d ≤ 2 * rest) (small : rest < d) :
    nearestQuotient (d * whole + rest) d = whole + 1 := by
  have next : 2 * d * (whole + 1) = 2 * (d * whole) + 2 * d := by ring
  have split : 2 * (d * whole + rest) + d = 2 * rest - d + 2 * d * (whole + 1) := by omega
  rw [nearestQuotient, split, Nat.add_mul_div_left _ _ (by omega), Nat.div_eq_of_lt (by omega),
    Nat.zero_add]

theorem nearestQuotient_one (n : Nat) : nearestQuotient n 1 = n := by
  unfold nearestQuotient
  omega

theorem floor_div_add_half (n : Nat) (positive : 0 < d) :
    ⌊(n : ℚ) / d + 1 / 2⌋₊ = nearestQuotient n d := by
  have joined : (n : ℚ) / d + 1 / 2 = (2 * n + d : Nat) / (2 * d : Nat) := by
    have nonzero : (d : ℚ) ≠ 0 := by exact_mod_cast Nat.ne_of_gt positive
    push_cast
    field_simp
  rw [joined, Nat.floor_div_eq_div, nearestQuotient]

end

namespace Literal

/-- The first of some digits is five or more where they write at least half of what they could. -/
theorem five_le_iff {c : Char} {rest : List Char} (isDigit : ∀ d ∈ c :: rest, d.isDigit) :
    '5' ≤ c ↔ 10 ^ (rest.length + 1) ≤ 2 * Nat.ofDigitChars 10 (c :: rest) 0 := by
  have behind := ofDigitChars_lt fun d member => isDigit d (List.mem_cons_of_mem c member)
  have joined : Nat.ofDigitChars 10 (c :: rest) 0 =
      10 ^ rest.length * (c.toNat - '0'.toNat) + Nat.ofDigitChars 10 rest 0 := by
    rw [← List.singleton_append, ofDigitChars_append_eq, ← List.nil_append [c], ofDigitChars_concat,
      Nat.ofDigitChars_nil, Nat.mul_zero, Nat.zero_add]
  have five : '5' ≤ c ↔ 5 ≤ c.toNat - '0'.toNat := by
    rw [Char.le_def, UInt32.le_iff_toNat_le]
    change 53 ≤ c.toNat ↔ 5 ≤ c.toNat - 48
    omega
  rw [joined, five, Nat.pow_succ]
  generalize c.toNat - '0'.toNat = digit
  constructor
  · intro large
    have scaled := Nat.mul_le_mul_left (10 ^ rest.length) large
    omega
  · intro half
    refine Nat.not_lt.1 fun small => ?_
    have scaled := Nat.mul_le_mul_left (10 ^ rest.length) (Nat.le_of_lt_succ small)
    omega

/-- The digits that are cut off are rounded up where they are half of an atom or more. The first of
them decides, since below five the digits behind it do not reach a half. -/
theorem roundsUp_iff {digits : List Char} (isDigit : ∀ c ∈ digits, c.isDigit) (dropped : Nat) :
    (dropped ≤ digits.length &&
      (digits.drop (digits.length - dropped)).head?.any ('5' ≤ ·)) = true ↔
    10 ^ dropped ≤ 2 * Nat.ofDigitChars 10 (digits.drop (digits.length - dropped)) 0 := by
  have cutDigit := fun c member =>
    isDigit c (List.mem_of_mem_drop (i := digits.length - dropped) member)
  have small := (kept_cut isDigit dropped).2
  rw [Bool.and_eq_true, decide_eq_true_eq]
  by_cases enough : dropped ≤ digits.length
  · have length : (digits.drop (digits.length - dropped)).length = dropped := by
      rw [List.length_drop]
      omega
    rw [and_iff_right enough]
    cases cut : digits.drop (digits.length - dropped) with
    | nil =>
      rw [cut] at length
      simp [← length]
    | cons c rest =>
      rw [cut] at length cutDigit
      rw [← length, List.length_cons, ← five_le_iff cutDigit]
      simp
  · -- More digits than there are would have to be cut off, so all of them are less than a tenth.
    have shorter : 10 ^ (digits.length + 1) ≤ 10 ^ dropped :=
      Nat.pow_le_pow_right (by decide) (by omega)
    rw [Nat.min_eq_right (by omega)] at small
    rw [Nat.pow_succ] at shorter
    constructor
    · intro both
      exact absurd both.1 enough
    · intro half
      omega

theorem increment_eq_ok_iff {digits : List Char} {atoms : Atoms} :
    orTooLarge ((Atoms.ofDigits? digits).bind (·.add? 1)) = .ok atoms ↔
      atoms.toNat = Nat.ofDigitChars 10 digits 0 + 1 := by
  have one : (1 : Atoms).toNat = 1 := rfl
  rw [orTooLarge_eq_ok_iff, Option.bind_eq_some_iff]
  simp only [Atoms.ofDigits?, Atoms.ofNat?_eq_some_iff, Atoms.add?_eq_some_iff, one]
  constructor
  · rintro ⟨kept, value, sum⟩
    rw [sum, value]
  · intro sum
    obtain ⟨kept, value⟩ : ∃ kept : Atoms, kept.toNat = Nat.ofDigitChars 10 digits 0 :=
      Atoms.exists_toNat_eq_of_le (Nat.le_of_lt (by rw [sum]; exact Nat.lt_succ_self _))
    exact ⟨kept, value, by rw [sum, value]⟩

theorem scaleDown_round_eq_ok_iff {digits : List Char} (isDigit : ∀ c ∈ digits, c.isDigit)
    {dropped : Nat} {atoms : Atoms} : scaleDown .round digits dropped = .ok atoms ↔
      atoms.toNat = nearestQuotient (Nat.ofDigitChars 10 digits 0) (10 ^ dropped) := by
  have zeros := all_zero_iff_ofDigitChars_eq_zero fun c member =>
    isDigit c (List.mem_of_mem_drop (i := digits.length - dropped) member)
  have up := roundsUp_iff isDigit dropped
  obtain ⟨joined, small⟩ := kept_cut isDigit dropped
  have rest_lt := Nat.lt_of_lt_of_le small
    (Nat.pow_le_pow_right (by decide) (Nat.min_le_left dropped digits.length))
  have kept {atoms : Atoms} :
      orTooLarge (Atoms.ofDigits? (digits.take (digits.length - dropped))) = .ok atoms ↔
        atoms.toNat = Nat.ofDigitChars 10 (digits.take (digits.length - dropped)) 0 := by
    rw [orTooLarge_eq_ok_iff, Atoms.ofDigits?, Atoms.ofNat?_eq_some_iff]
  rw [scaleDown, joined]
  split
  · next exactly =>
    rw [kept, nearestQuotient_below]
    rw [zeros.1 exactly]
    exact Nat.pow_pos (by decide)
  · split
    · next goesUp =>
      rw [increment_eq_ok_iff, nearestQuotient_above (up.1 goesUp) rest_lt]
    · next stays =>
      rw [kept, nearestQuotient_below (Nat.not_le.1 fun half => stays (up.2 half))]

theorem scaleDown_round_of_refuse {digits : List Char} {dropped : Nat} {atoms : Atoms}
    (exactly : scaleDown .refuse digits dropped = .ok atoms) :
    scaleDown .round digits dropped = .ok atoms := by
  rw [scaleDown] at exactly
  rw [scaleDown]
  split at exactly
  · next zeros =>
    rw [if_pos zeros]
    exact exactly
  · cases exactly

theorem toAtoms_round_of_refuse {literal : Literal} {atoms : Atoms}
    (exactly : toAtoms .refuse literal = .ok atoms) : toAtoms .round literal = .ok atoms := by
  rw [toAtoms_eq_ok_iff] at exactly ⊢
  obtain ⟨placesFit, shiftFits, scaled⟩ := exactly
  refine ⟨placesFit, shiftFits, ?_⟩
  split at scaled
  · next up =>
    rw [if_pos up]
    exact scaled
  · next down =>
    rw [if_neg down]
    exact scaleDown_round_of_refuse scaled

/-- The atoms of a literal that writes more than nothing are the nearest ones to its value. -/
theorem toAtoms_round_eq_ok_iff (literal : Literal) (isDigit : ∀ c ∈ literal.digits, c.isDigit)
    (short : literal.digits.length < 2 ^ 62) (near : literal.exponent.natAbs < 2 ^ 62)
    (significant : literal.significand ≠ 0) {atoms : Atoms} :
    toAtoms .round literal = .ok atoms ↔
      atoms.toNat = nearestQuotient (literal.significand * 10 ^ literal.shift.toNat)
        (10 ^ (-literal.shift).toNat) := by
  obtain ⟨placesFit, shiftFits⟩ := literal.fitsInt64_of_near short near
  rw [toAtoms_eq_ok_iff, and_iff_right placesFit, and_iff_right shiftFits]
  split
  · next up =>
    have noDown : (-literal.shift).toNat = 0 := by omega
    rw [scaleUp_eq_ok_iff, and_iff_right up, noDown, Nat.pow_zero, nearestQuotient_one]
    change _ ∧ atoms.toNat = literal.significand * 10 ^ literal.shift.toNat ↔ _
    refine and_iff_right_of_imp fun value => ?_
    have scaled : atoms.toNat * 10 ^ (-literal.shift).toNat =
        literal.significand * 10 ^ literal.shift.toNat := by
      rw [noDown, Nat.pow_zero, Nat.mul_one, value]
    exact (literal.shift_bounds isDigit significant scaled).2
  · next down =>
    have noUp : literal.shift.toNat = 0 := by omega
    rw [scaleDown_round_eq_ok_iff isDigit, noUp, Nat.pow_zero, Nat.mul_one]
    rfl

end Literal

theorem Spelling.floor_value (s : Spelling) : ⌊s.value * 10 ^ decimals + 1 / 2⌋₊ =
    nearestQuotient (s.literal.significand * 10 ^ s.literal.shift.toNat)
      (10 ^ (-s.literal.shift).toNat) := by
  have positive : 0 < 10 ^ (-s.literal.shift).toNat := Nat.pow_pos (by decide)
  have quotient : s.value * 10 ^ decimals =
      (s.literal.significand * 10 ^ s.literal.shift.toNat : Nat) /
        (10 ^ (-s.literal.shift).toNat : Nat) := by
    have nonzero : ((10 ^ (-s.literal.shift).toNat : Nat) : ℚ) ≠ 0 := by positivity
    rw [s.value_mul_pow, eq_div_iff nonzero]
    push_cast
    rw [mul_assoc, Powers.zpow_mul_pow (by decide)]
  rw [quotient, floor_div_add_half _ positive]

/-- A text that is spelled like a price is read, with rounding, as the price nearest to its exact
value if this fits, however many digits it has. Without rounding no text is read otherwise than with
it. -/
theorem read_round_nearest (text : String) :
    (∀ s : Spelling, Text.trim text.toList = s.chars → text.utf8ByteSize < 2 ^ 62 →
      s.power.natAbs < 2 ^ 62 → (∃ c ∈ s.literal.digits, c ≠ '0') →
      (⌊s.value * 10 ^ decimals + 1 / 2⌋₊ < 2 ^ 256 →
        ∃ p, read .round text = .ok p ∧ p.atoms.toNat = ⌊s.value * 10 ^ decimals + 1 / 2⌋₊) ∧
      (2 ^ 256 ≤ ⌊s.value * 10 ^ decimals + 1 / 2⌋₊ →
        ∃ fault, read .round text = .error (.invalidInput (.badPriceText fault text)))) ∧
    ∀ p, read .refuse text = .ok p → read .round text = .ok p := by
  constructor
  · intro s spelled short near significant
    have few : s.literal.digits.length < 2 ^ 62 :=
      Nat.lt_of_le_of_lt (length_digits_le spelled) short
    have powerFits : Literal.FitsInt64 s.power := by
      constructor <;> omega
    have found := Literal.read_of_trim_eq s spelled powerFits
    have reads (p : Price) : read .round text = .ok p ↔
        p.atoms.toNat = ⌊s.value * 10 ^ decimals + 1 / 2⌋₊ := by
      rw [read_eq_ok_iff, s.floor_value, ← s.literal.toAtoms_round_eq_ok_iff s.isDigit few near
        (Spelling.significand_ne_zero significant), found]
      simp
    constructor
    · intro fits
      obtain ⟨atoms, value⟩ := Atoms.exists_toNat_eq fits
      exact ⟨⟨atoms⟩, (reads ⟨atoms⟩).2 value, value⟩
    · intro large
      rcases read_cases .round text with ⟨p, given⟩ | refused
      · have value := (reads p).1 given
        have bound := p.atoms.isLt
        omega
      · exact refused
  · intro p given
    rw [read_eq_ok_iff] at given ⊢
    obtain ⟨literal, found, scaled⟩ := given
    exact ⟨literal, found, Literal.toAtoms_round_of_refuse scaled⟩

/-- Half an atom is carried through all digits. -/
theorem read_round_nearest_carry : read .round " +9.999999999999999999999995e-1\n" = .ok one := by
  let s : Spelling := {
    plus := true
    whole := ['9']
    fraction := some ("999999999999999999999995".toList)
    exponent := some ⟨'e', ⟨.minus, ['1'], List.all_eq_true.1 rfl, by decide⟩, .inl rfl⟩
    isDigit := List.all_eq_true.1 (by decide +kernel)
    nonempty := by decide }
  have value : ⌊s.value * 10 ^ decimals + 1 / 2⌋₊ = 10 ^ 24 := by
    rw [s.floor_value]
    decide +kernel
  obtain ⟨nearest, -⟩ := read_round_nearest " +9.999999999999999999999995e-1\n"
  obtain ⟨p, given, atoms⟩ := (nearest s (by decide +kernel) (by decide +kernel) (by decide +kernel)
    ⟨'9', by decide, by decide⟩).1 (by rw [value]; decide)
  have same : p = one := by
    rw [eq_iff_toNat_eq, atoms, value]
    decide +kernel
  rw [given, same]

end PriceLadder.Price
