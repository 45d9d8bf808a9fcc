import Mathlib.Algebra.Group.Nat.Defs
import Mathlib.Data.List.DropRight
import PriceLadder.Price.Printer

set_option autoImplicit false

namespace PriceLadder.Price

/-- Whether digits write a whole number without a superfluous zero in front. -/
structure IsWhole (digits : List Char) : Prop where
  isDigit : ∀ c ∈ digits, c.isDigit
  front : digits = ['0'] ∨ digits ≠ [] ∧ digits.head? ≠ some '0'

/-- Whether digits write a fraction without a superfluous zero at the end. -/
structure IsFraction (digits : List Char) : Prop where
  isDigit : ∀ c ∈ digits, c.isDigit
  last : digits.getLast? ≠ some '0'

theorem IsWhole.ne_nil {digits : List Char} (isWhole : IsWhole digits) : digits ≠ [] := by
  rcases isWhole.front with rfl | proper
  · exact List.cons_ne_nil _ _
  · exact proper.1

theorem toNat_sub_lt_ten {c : Char} (isDigit : c.isDigit) : c.toNat - '0'.toNat < 10 := by
  have bounds := Char.isDigit_iff_toNat.1 isDigit
  rw [show '0'.toNat = 48 from rfl, show '9'.toNat = 57 from rfl] at bounds
  rw [show '0'.toNat = 48 from rfl]
  omega

theorem digitChar_toNat_sub {c : Char} (isDigit : c.isDigit) :
    (c.toNat - '0'.toNat).digitChar = c := by
  have bounds := Char.isDigit_iff_toNat.1 isDigit
  have small := toNat_sub_lt_ten isDigit
  rw [← Char.toNat_inj, Nat.toNat_digitChar_of_lt_ten small]
  exact Nat.add_sub_of_le bounds.1

theorem ofDigitChars_concat (digits : List Char) (c : Char) :
    Nat.ofDigitChars 10 (digits ++ [c]) 0 =
      10 * Nat.ofDigitChars 10 digits 0 + (c.toNat - '0'.toNat) := by
  rw [Nat.ofDigitChars_append, Nat.ofDigitChars_cons, Nat.ofDigitChars_nil]

theorem ofDigitChars_append_eq (front digits : List Char) :
    Nat.ofDigitChars 10 (front ++ digits) 0 =
      10 ^ digits.length * Nat.ofDigitChars 10 front 0 + Nat.ofDigitChars 10 digits 0 := by
  rw [Nat.ofDigitChars_append, Nat.ofDigitChars_eq_ofDigitChars_zero]

theorem isWhole_toDigits (n : Nat) : IsWhole (Nat.toDigits 10 n) := by
  refine ⟨fun c member => Nat.isDigit_of_mem_toDigits (by decide) (by decide) member, ?_⟩
  induction n using Nat.strongRecOn with
  | ind n ih =>
    by_cases small : n < 10
    · rw [Nat.toDigits_of_lt_base small]
      by_cases zero : n = 0
      · rw [zero]
        exact .inl rfl
      · right
        refine ⟨List.cons_ne_nil _ _, ?_⟩
        rw [List.head?_cons, Ne, Option.some.injEq, Nat.digitChar_eq_zero]
        exact zero
    · rw [Nat.toDigits_of_base_le (by decide) (Nat.not_lt.1 small)]
      right
      refine ⟨List.append_ne_nil_of_left_ne_nil Nat.toDigits_ne_nil _, ?_⟩
      rw [List.head?_append_of_ne_nil _ Nat.toDigits_ne_nil]
      rcases ih (n / 10) (by omega) with zero | proper
      · have value := congrArg (Nat.ofDigitChars 10 · 0) zero
        simp only [Nat.ofDigitChars_ten_toDigits] at value
        have none : n / 10 = 0 := value
        omega
      · exact proper.2

theorem toDigits_ofDigitChars {digits : List Char} (isWhole : IsWhole digits) :
    Nat.toDigits 10 (Nat.ofDigitChars 10 digits 0) = digits := by
  -- From the end: the last digit is the one that a division by ten takes off.
  induction digits using List.reverseRecOn with
  | nil => exact absurd rfl isWhole.ne_nil
  | append_singleton front c ih =>
    have isDigit := isWhole.isDigit c (by simp)
    have small := toNat_sub_lt_ten isDigit
    rw [ofDigitChars_concat]
    by_cases alone : front = []
    · rw [alone, Nat.ofDigitChars_nil, Nat.mul_zero, Nat.zero_add, Nat.toDigits_of_lt_base small,
        digitChar_toNat_sub isDigit, List.nil_append]
    · have proper : front.head? ≠ some '0' := by
        rcases isWhole.front with zero | proper
        · have lengths := congrArg List.length zero
          have positive := List.length_pos_iff.2 alone
          simp only [List.length_append, List.length_cons, List.length_nil] at lengths
          omega
        · rw [← List.head?_append_of_ne_nil front alone]
          exact proper.2
      have same := ih ⟨fun d member => isWhole.isDigit d (by simp [member]), .inr ⟨alone, proper⟩⟩
      have positive : 0 < Nat.ofDigitChars 10 front 0 := by
        refine Nat.pos_of_ne_zero fun zero => ?_
        rw [zero, Nat.toDigits_zero] at same
        rw [← same] at proper
        exact proper rfl
      rw [← Nat.toDigits_append_toDigits (by decide) positive small, same,
        Nat.toDigits_of_lt_base small, digitChar_toNat_sub isDigit]

theorem isDigit_of_mem_lastDigits {width n : Nat} {c : Char} (member : c ∈ lastDigits width n) :
    c.isDigit := by
  induction width generalizing n with
  | zero => simp [lastDigits] at member
  | succ width ih =>
    simp only [lastDigits, List.mem_append, List.mem_singleton] at member
    rcases member with inFront | rfl
    · exact ih inFront
    · rw [Nat.isDigit_digitChar, decide_eq_true_eq]
      exact Nat.mod_lt n (by decide)

theorem ofDigitChars_lastDigits (width n : Nat) :
    Nat.ofDigitChars 10 (lastDigits width n) 0 = n % 10 ^ width := by
  induction width generalizing n with
  | zero => rw [lastDigits, Nat.ofDigitChars_nil, Nat.pow_zero, Nat.mod_one]
  | succ width ih =>
    have small := Nat.mod_lt n (show 10 > 0 by decide)
    have digit : (n % 10).digitChar.toNat - '0'.toNat = n % 10 :=
      Nat.toNat_digitChar_sub_48_of_lt_ten small
    rw [lastDigits, ofDigitChars_concat, ih, digit, Nat.pow_succ', Nat.mod_mul, Nat.add_comm]

theorem lastDigits_ofDigitChars {digits : List Char} (isDigit : ∀ c ∈ digits, c.isDigit) :
    lastDigits digits.length (Nat.ofDigitChars 10 digits 0) = digits := by
  induction digits using List.reverseRecOn with
  | nil => rfl
  | append_singleton front c ih =>
    have small := toNat_sub_lt_ten (isDigit c (by simp))
    have quotient (n : Nat) : (10 * n + (c.toNat - '0'.toNat)) / 10 = n := by omega
    have rest (n : Nat) : (10 * n + (c.toNat - '0'.toNat)) % 10 = c.toNat - '0'.toNat := by omega
    rw [List.length_append, List.length_singleton, lastDigits, ofDigitChars_concat, quotient, rest,
      ih fun d member => isDigit d (by simp [member]), digitChar_toNat_sub (isDigit c (by simp))]

theorem ofDigitChars_lt {digits : List Char} (isDigit : ∀ c ∈ digits, c.isDigit) :
    Nat.ofDigitChars 10 digits 0 < 10 ^ digits.length := by
  have value := ofDigitChars_lastDigits digits.length (Nat.ofDigitChars 10 digits 0)
  rw [lastDigits_ofDigitChars isDigit] at value
  rw [value]
  exact Nat.mod_lt _ (Nat.pow_pos (by decide))

theorem exists_trimZeros (digits : List Char) :
    ∃ count, digits = trimZeros digits ++ List.replicate count '0' := by
  refine ⟨(digits.rtakeWhile (· = '0')).length, ?_⟩
  have zeros : digits.rtakeWhile (· = '0') =
      List.replicate (digits.rtakeWhile (· = '0')).length '0' := by
    rw [List.eq_replicate_iff]
    refine ⟨rfl, fun c member => ?_⟩
    simpa using List.mem_rtakeWhile_imp member
  rw [← zeros]
  exact List.rdropWhile_append_rtakeWhile.symm

theorem trimZeros_append_replicate {digits : List Char} (last : digits.getLast? ≠ some '0')
    (count : Nat) : trimZeros (digits ++ List.replicate count '0') = digits := by
  induction count with
  | zero =>
    rw [List.replicate_zero, List.append_nil]
    refine List.rdropWhile_eq_self_iff.2 fun nonempty zero => last ?_
    rw [List.getLast?_eq_some_getLast nonempty]
    simpa using zero
  | succ count ih =>
    rw [List.replicate_succ', ← List.append_assoc]
    exact (List.rdropWhile_concat_pos _ _ '0' rfl).trans ih

theorem getLast?_trimZeros (digits : List Char) : (trimZeros digits).getLast? ≠ some '0' := by
  intro zero
  have nonempty : trimZeros digits ≠ [] := by
    intro none
    rw [none] at zero
    cases zero
  rw [List.getLast?_eq_some_getLast nonempty, Option.some.injEq] at zero
  exact List.rdropWhile_last_not _ digits nonempty (decide_eq_true zero)

end PriceLadder.Price
