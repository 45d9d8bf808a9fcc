import Mathlib.Tactic.Ring
import PriceLadder.Json.Forms
import PriceLadder.Proofs.Json.Strings
import PriceLadder.Proofs.Outcome
import PriceLadder.Proofs.Price.Literal

set_option autoImplicit false

namespace PriceLadder.Price

/-- Whether two strings of digits, before and behind the point, write a price with none to spare. -/
structure Canonical (p : Price) (whole fraction : List Char) : Prop where
  isWhole : IsWhole whole
  isFraction : IsFraction fraction
  short : fraction.length ≤ decimals
  value : plainAtoms whole fraction = p.atoms.toNat

theorem isWhole_wholeDigits (p : Price) : IsWhole p.wholeDigits :=
  isWhole_toDigits _

theorem exists_fractionDigits (p : Price) : ∃ count,
    lastDigits decimals (p.atoms.toNat % 10 ^ decimals) =
      p.fractionDigits ++ List.replicate count '0' ∧
    p.fractionDigits.length + count = decimals := by
  obtain ⟨count, padded⟩ := exists_trimZeros (lastDigits decimals (p.atoms.toNat % 10 ^ decimals))
  have lengths := congrArg List.length padded
  rw [length_lastDigits, List.length_append, List.length_replicate] at lengths
  exact ⟨count, padded, lengths.symm⟩

theorem isFraction_fractionDigits (p : Price) : IsFraction p.fractionDigits := by
  obtain ⟨count, padded, -⟩ := p.exists_fractionDigits
  refine ⟨fun c member => ?_, getLast?_trimZeros _⟩
  apply isDigit_of_mem_lastDigits
  rw [padded]
  exact List.mem_append_left _ member

theorem plainAtoms_eq (whole : List Char) {fraction : List Char} {count : Nat}
    (places : fraction.length + count = decimals) :
    plainAtoms whole fraction = Nat.ofDigitChars 10 whole 0 * 10 ^ decimals +
      Nat.ofDigitChars 10 (fraction ++ List.replicate count '0') 0 := by
  have count_eq : decimals - fraction.length = count := by omega
  rw [plainAtoms, ofDigitChars_append_eq, count_eq, Nat.ofDigitChars_append,
    Nat.ofDigitChars_replicate_zero, ← places, Nat.pow_add]
  ring

theorem canonical_digits (p : Price) : Canonical p p.wholeDigits p.fractionDigits := by
  obtain ⟨count, padded, places⟩ := p.exists_fractionDigits
  refine ⟨p.isWhole_wholeDigits, p.isFraction_fractionDigits, by omega, ?_⟩
  rw [plainAtoms_eq _ places, ← padded, ofDigitChars_lastDigits, Nat.mod_mod, wholeDigits,
    Nat.ofDigitChars_ten_toDigits]
  exact Nat.div_add_mod' _ _

/-- No other digits write a price with none to spare. -/
theorem Canonical.unique {p : Price} {whole fraction : List Char}
    (canonical : Canonical p whole fraction) :
    whole = p.wholeDigits ∧ fraction = p.fractionDigits := by
  obtain ⟨count, places⟩ := Nat.exists_eq_add_of_le canonical.short
  have value := canonical.value
  rw [plainAtoms_eq whole places.symm] at value
  have isDigit : ∀ c ∈ fraction ++ List.replicate count '0', c.isDigit := by
    intro c member
    rcases List.mem_append.1 member with inFraction | zero
    · exact canonical.isFraction.isDigit c inFraction
    · rw [List.eq_of_mem_replicate zero]
      rfl
  have length : (fraction ++ List.replicate count '0').length = decimals := by
    rw [List.length_append, List.length_replicate]
    exact places.symm
  have small := ofDigitChars_lt isDigit
  have same := lastDigits_ofDigitChars isDigit
  rw [length] at small same
  have quotient : p.atoms.toNat / 10 ^ decimals = Nat.ofDigitChars 10 whole 0 := by
    rw [← value, Nat.mul_comm, Nat.mul_add_div (by decide), Nat.div_eq_of_lt small, Nat.add_zero]
  have rest : p.atoms.toNat % 10 ^ decimals =
      Nat.ofDigitChars 10 (fraction ++ List.replicate count '0') 0 := by
    rw [← value, Nat.mul_comm, Nat.mul_add_mod, Nat.mod_eq_of_lt small]
  constructor
  · rw [wholeDigits, Nat.pow_eq, quotient, toDigits_ofDigitChars canonical.isWhole]
  · rw [fractionDigits, Nat.pow_eq, rest, same,
      trimZeros_append_replicate canonical.isFraction.last]

theorem text_eq_plain (p : Price) :
    p.text = String.ofList (plain p.wholeDigits p.fractionDigits) := by
  rw [text, chars]
  cases p.fractionDigits with
  | nil => rfl
  | cons => rfl

theorem ofText_plain {p : Price} {whole fraction : List Char}
    (canonical : Canonical p whole fraction) :
    ofText (String.ofList (plain whole fraction)) = .ok p := by
  have nonempty : whole ++ fraction ≠ [] :=
    List.append_ne_nil_of_left_ne_nil canonical.isWhole.ne_nil _
  have atoms : Literal.toAtoms .refuse ⟨whole, fraction, 0⟩ = .ok p.atoms :=
    (Literal.toAtoms_plain_eq_ok_iff canonical.short).2 canonical.value.symm
  have literal := Literal.read_plain canonical.isWhole.isDigit canonical.isFraction.isDigit nonempty
  rw [ofText_eq_ok_iff, String.toList_ofList]
  exact ⟨_, literal, atoms⟩

theorem ofText_text (p : Price) : ofText p.text = .ok p := by
  rw [text_eq_plain, ofText_plain p.canonical_digits]

theorem text_injective : Function.Injective text := by
  intro p q same
  have parsed := congrArg ofText same
  rw [ofText_text, ofText_text] at parsed
  exact Except.ok.inj parsed

theorem ofJson?_toJson (p : Price) : (Json.Value.ofText? p.toJson).bind ofJson? = some p := by
  rw [toJson, Json.Value.ofText?_writeString, Option.bind_some]
  simp only [ofJson?, Json.Value.text?, Option.bind_eq_bind, Option.bind_some, ofText_text]
  rfl

/-- The text of a price is its canonical decimal and is read as that price, from JSON too. So what
can be read has the price of one text, and prices that are read agree if and only if their texts
do. -/
theorem text_roundTrip :
    (∀ p : Price, ofText p.text = .ok p ∧
      (∀ written, written = p.text ↔ ∃ whole fraction, Canonical p whole fraction ∧
        written = String.ofList (plain whole fraction)) ∧
      (Json.Value.ofText? p.toJson).bind ofJson? = some p) ∧
    (∀ written, (ofText written >>= fun p => ofText p.text) = ofText written) ∧
    ∀ first second, (∃ p, ofText first = .ok p ∧ ofText second = .ok p) ↔
      ∃ written, text <$> ofText first = .ok written ∧ text <$> ofText second = .ok written := by
  refine ⟨fun p => ⟨p.ofText_text, fun written => ?_, p.ofJson?_toJson⟩, fun written => ?_,
    fun first second => ?_⟩
  · constructor
    · rintro rfl
      exact ⟨_, _, p.canonical_digits, p.text_eq_plain⟩
    · rintro ⟨whole, fraction, canonical, rfl⟩
      rw [canonical.unique.1, canonical.unique.2, text_eq_plain]
  · cases ofText written with
    | error => rfl
    | ok p => simp only [bind, Except.bind, ofText_text]
  · simp only [Outcome.map_eq_ok_iff]
    constructor
    · rintro ⟨p, firstParsed, secondParsed⟩
      exact ⟨p.text, ⟨p, firstParsed, rfl⟩, p, secondParsed, rfl⟩
    · rintro ⟨written, ⟨p, firstParsed, firstText⟩, q, secondParsed, secondText⟩
      rw [text_injective (firstText.trans secondText.symm)] at firstParsed
      exact ⟨q, firstParsed, secondParsed⟩

end PriceLadder.Price
