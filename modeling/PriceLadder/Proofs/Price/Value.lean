import Mathlib.Data.BitVec
import Mathlib.Tactic.FieldSimp
import PriceLadder.Proofs.Powers
import PriceLadder.Proofs.Price.Scaling

set_option autoImplicit false

namespace PriceLadder.Price

namespace Spelling

/-- What the digits on both sides of the point write. -/
def mantissa (s : Spelling) : ℚ :=
  Nat.ofDigitChars 10 s.whole 0 +
    Nat.ofDigitChars 10 (s.fraction.getD []) 0 / 10 ^ (s.fraction.getD []).length

def value (s : Spelling) : ℚ :=
  s.mantissa * 10 ^ s.power

/-- The value in atoms is the number of all digits, moved by the places behind the point and by the
exponent. -/
theorem value_mul_pow (s : Spelling) :
    s.value * 10 ^ decimals = s.literal.significand * 10 ^ s.literal.shift := by
  have ten : (10 : ℚ) ≠ 0 := by decide
  have significand : s.literal.significand = 10 ^ (s.fraction.getD []).length *
      Nat.ofDigitChars 10 s.whole 0 + Nat.ofDigitChars 10 (s.fraction.getD []) 0 :=
    ofDigitChars_append_eq s.whole (s.fraction.getD [])
  have shift : s.literal.shift = decimals - ((s.fraction.getD []).length - s.power) := rfl
  rw [value, mantissa, significand, shift, zpow_sub₀ ten, zpow_sub₀ ten, zpow_natCast,
    zpow_natCast]
  push_cast
  field_simp

theorem mem_digits {s : Spelling} {c : Char} (member : c ∈ s.mantissaChars) (isDigit : c.isDigit) :
    c ∈ s.literal.digits := by
  have notPoint := ne_point isDigit
  unfold mantissaChars at member
  unfold Literal.digits literal
  cases fraction : s.fraction with
  | none => simpa [fraction, pointed] using member
  | some digits => simpa [fraction, pointed, notPoint] using member

theorem significand_ne_zero {s : Spelling} (significant : ∃ c ∈ s.literal.digits, c ≠ '0') :
    s.literal.significand ≠ 0 := by
  obtain ⟨c, member, notZero⟩ := significant
  intro zero
  have zeros := (all_zero_iff_ofDigitChars_eq_zero s.isDigit).2 zero
  exact notZero (of_decide_eq_true (List.all_eq_true.1 zeros c member))

/-- The exponent of a written price is within 64 bits if its value is that of a number of atoms: it
makes up for places behind the point, of which there are no more than digits. -/
theorem fitsInt64_power {s : Spelling} (short : s.literal.digits.length < 2 ^ 62)
    (significant : s.literal.significand ≠ 0) {atoms : Atoms}
    (value : (atoms.toNat : ℚ) = s.value * 10 ^ decimals) : Literal.FitsInt64 s.power := by
  rw [value_mul_pow, Powers.natCast_eq_mul_zpow_iff] at value
  have bounds := s.literal.shift_bounds s.isDigit significant value
  have shift : s.literal.shift = decimals - ((s.fraction.getD []).length - s.power) := rfl
  have places : (s.fraction.getD []).length ≤ s.literal.digits.length := by
    simp [Literal.digits, literal]
  have most : Atoms.greatestExponent = 77 := rfl
  have decimals_eq : decimals = 24 := rfl
  exact ⟨by omega, by omega⟩

end Spelling

theorem length_le_utf8ByteSize (chars : List Char) :
    chars.length ≤ (String.ofList chars).utf8ByteSize := by
  induction chars with
  | nil => exact Nat.zero_le _
  | cons c rest ih =>
    have positive := c.utf8Size_pos
    rw [String.ofList_cons, String.utf8ByteSize_append, String.utf8ByteSize_singleton,
      List.length_cons]
    omega

section

variable {text : String} {s : Spelling} (spelled : Text.trim text.toList = s.chars)
include spelled

theorem takeWhile_dropPlus_eq :
    (Literal.dropPlus (Text.trim text.toList)).takeWhile (!Literal.isExponentMark ·) =
      s.mantissaChars := by
  rw [spelled, Literal.dropPlus_chars]
  exact (Literal.split_exponentChars s).1

theorem length_digits_le : s.literal.digits.length ≤ text.utf8ByteSize := by
  have bytes := length_le_utf8ByteSize text.toList
  have trimmed := Text.length_trim_le text.toList
  have digits : s.literal.digits.length ≤ s.mantissaChars.length := by
    unfold Literal.digits Spelling.literal Spelling.mantissaChars
    cases s.fraction with
    | none => exact Nat.le_refl _
    | some digits => simp [pointed]
  rw [String.ofList_toList] at bytes
  rw [spelled, Spelling.chars, List.length_append, List.length_append] at trimmed
  omega

end

/-- A text writes a price: with white space around it, it is spelled like one, and its exact value
is that of the price. -/
def Writes (text : String) (p : Price) : Prop :=
  ∃ s : Spelling, Text.trim text.toList = s.chars ∧
    (p.atoms.toNat : ℚ) = s.value * 10 ^ decimals

/-- The text of a price whose digits are not all zeros is read as the price that it writes, and
where it writes none it is refused. -/
theorem ofText_eq_ok_iff_writes (text : String) (short : text.utf8ByteSize < 2 ^ 62)
    (significant : ∀ s : Spelling, Text.trim text.toList = s.chars →
      ∃ c ∈ s.literal.digits, c ≠ '0') :
    (∀ p, ofText text = .ok p ↔ Writes text p) ∧
    ((∀ p, ¬ Writes text p) →
      ∃ fault, ofText text = .error (.invalidInput (.badPriceText fault text))) := by
  have few {s : Spelling} (spelled : Text.trim text.toList = s.chars) :
      s.literal.digits.length < 2 ^ 62 :=
    Nat.lt_of_le_of_lt (length_digits_le spelled) short
  have nonzero {s : Spelling} (spelled : Text.trim text.toList = s.chars) :
      s.literal.significand ≠ 0 :=
    Spelling.significand_ne_zero (significant s spelled)
  have reads (p : Price) : ofText text = .ok p ↔ Writes text p := by
    have exactly {s : Spelling} (spelled : Text.trim text.toList = s.chars) :
        s.literal.toAtoms .refuse = .ok p.atoms ↔
          (p.atoms.toNat : ℚ) = s.value * 10 ^ decimals := by
      rw [s.value_mul_pow, Powers.natCast_eq_mul_zpow_iff]
      exact s.literal.toAtoms_refuse_eq_ok_iff s.isDigit (few spelled) (nonzero spelled)
    rw [ofText_eq_ok_iff]
    constructor
    · rintro ⟨literal, found, scaled⟩
      obtain ⟨s, spelled, rfl, -⟩ := Literal.read_eq_ok_iff.1 found
      exact ⟨s, spelled, (exactly spelled).1 scaled⟩
    · rintro ⟨s, spelled, value⟩
      -- A value that is a number of atoms bounds the exponent, which is thus read.
      have fits := Spelling.fitsInt64_power (few spelled) (nonzero spelled) value
      exact ⟨s.literal, Literal.read_of_trim_eq s spelled fits, (exactly spelled).2 value⟩
  refine ⟨reads, fun none => ?_⟩
  rcases ofText_cases text with ⟨p, found⟩ | refused
  · exact absurd ((reads p).1 found) (none p)
  · exact refused

/-- Zeros beyond the last decimal place write nothing, and an exponent moves the point. -/
theorem ofText_eq_ok_iff_writes_zeros :
    Writes " +12.5000000000000000000000000E-3\n" ⟨125 * 10 ^ 20⟩ := by
  refine ((ofText_eq_ok_iff_writes _ (by decide +kernel) fun s spelled => ?_).1 _).1
    (by decide +kernel)
  have one : '1' ∈ s.mantissaChars := by
    rw [← takeWhile_dropPlus_eq spelled]
    decide +kernel
  exact ⟨'1', Spelling.mem_digits one rfl, by decide⟩

end PriceLadder.Price
