import PriceLadder.Proofs.Price.Scaling

set_option autoImplicit false

namespace PriceLadder.Price

/-- The characters of a plain decimal. Without a fraction there is no point. -/
def plain (whole fraction : List Char) : List Char :=
  match fraction with
  | [] => whole
  | fraction => whole ++ '.' :: fraction

/-- The atoms that a plain decimal writes. -/
def plainAtoms (whole fraction : List Char) : Nat :=
  Nat.ofDigitChars 10 (whole ++ fraction) 0 * 10 ^ (decimals - fraction.length)

theorem exists_spelling_plain {whole fraction : List Char} (wholeDigits : ∀ c ∈ whole, c.isDigit)
    (fractionDigits : ∀ c ∈ fraction, c.isDigit) (nonempty : whole ++ fraction ≠ []) :
    ∃ s : Spelling, s.chars = plain whole fraction ∧ s.mantissaChars = plain whole fraction ∧
      s.literal = ⟨whole, fraction, 0⟩ := by
  obtain ⟨behind, chars, rfl⟩ : ∃ behind : Option (List Char),
      whole ++ pointed behind = plain whole fraction ∧ behind.getD [] = fraction := by
    cases fraction with
    | nil => exact ⟨none, List.append_nil _, rfl⟩
    | cons c rest => exact ⟨some (c :: rest), rfl, rfl⟩
  have isDigit : ∀ c ∈ whole ++ behind.getD [], c.isDigit := by
    intro c member
    rcases List.mem_append.1 member with inWhole | inFraction
    · exact wholeDigits c inWhole
    · exact fractionDigits c inFraction
  rw [← chars]
  exact ⟨⟨false, whole, behind, none, isDigit, nonempty⟩, List.append_nil _, rfl, rfl⟩

namespace Literal

theorem read_plain {whole fraction : List Char} (wholeDigits : ∀ c ∈ whole, c.isDigit)
    (fractionDigits : ∀ c ∈ fraction, c.isDigit) (nonempty : whole ++ fraction ≠ []) :
    read (plain whole fraction) = .ok ⟨whole, fraction, 0⟩ := by
  obtain ⟨s, chars, mantissa, literal⟩ :=
    exists_spelling_plain wholeDigits fractionDigits nonempty
  have notBlank : ∀ c ∈ plain whole fraction, Text.isBlank c = false := by
    intro c member
    rw [← mantissa] at member
    exact (plain_char (Spelling.isDigit_or_eq_point member)).1
  have trimmed : Text.trim (plain whole fraction) = plain whole fraction :=
    Text.trim_eq_self (fun c front => notBlank c (List.mem_of_head? front))
      (fun c last => notBlank c (List.mem_of_getLast? last))
  have power : s.power = 0 := congrArg exponent literal
  rw [← literal]
  exact read_of_trim_eq s (trimmed.trans chars.symm) (power ▸ fitsInt64_zero)

theorem toAtoms_plain_eq_ok_iff {excess : Excess} {whole fraction : List Char}
    (short : fraction.length ≤ decimals) {atoms : Atoms} :
    toAtoms excess ⟨whole, fraction, 0⟩ = .ok atoms ↔ atoms.toNat = plainAtoms whole fraction := by
  have most : decimals = 24 := rfl
  have shift_eq : shift ⟨whole, fraction, 0⟩ = (decimals - fraction.length : Nat) := by
    simp only [shift]
    omega
  have upwards : (0 : Int) ≤ (decimals - fraction.length : Nat) := Int.natCast_nonneg _
  have near : ((decimals - fraction.length : Nat) : Int) ≤ Atoms.greatestExponent := by
    unfold Atoms.greatestExponent
    omega
  have placesFit : FitsInt64 (fraction.length - 0) := ⟨by omega, by omega⟩
  have shiftFits : FitsInt64 (decimals - fraction.length : Nat) := ⟨by omega, by omega⟩
  rw [toAtoms_eq_ok_iff, shift_eq, if_pos upwards, scaleUp_eq_ok_iff, and_iff_right placesFit,
    and_iff_right shiftFits, and_iff_right upwards, and_iff_right near, Int.toNat_natCast]
  rfl

end Literal

end PriceLadder.Price
