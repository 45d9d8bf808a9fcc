import Mathlib.Algebra.Group.Int.Defs
import Mathlib.Algebra.Group.Nat.Defs
import PriceLadder.Numeral.Integer
import PriceLadder.Proofs.Outcome

set_option autoImplicit false

namespace PriceLadder.Numeral

inductive Sign where
  | none
  | plus
  | minus
deriving DecidableEq, Repr

def Sign.chars : Sign → List Char
  | none => []
  | plus => ['+']
  | minus => ['-']

def Sign.apply : Sign → Nat → Int
  | minus, n => -n
  | _, n => n

structure Signed where
  sign : Sign
  digits : List Char
  isDigit : ∀ c ∈ digits, c.isDigit
  nonempty : digits ≠ []

namespace Signed

def chars (s : Signed) : List Char :=
  s.sign.chars ++ s.digits

def value (s : Signed) : Int :=
  s.sign.apply (Nat.ofDigitChars 10 s.digits 0)

end Signed

theorem le_ofDigitChars (digits : List Char) (start : Nat) :
    start ≤ Nat.ofDigitChars 10 digits start := by
  rw [Nat.ofDigitChars_eq_ofDigitChars_zero]
  have power : 0 < 10 ^ digits.length := Nat.pow_pos (by decide)
  have scaled := Nat.le_mul_of_pos_left start power
  omega

theorem stepUp_eq_ok_iff {high : Int} {start : Nat} {c : Char} {n : Int} :
    stepUp high start c = .ok n ↔
      c.isDigit ∧ n = (10 * start + digitValue c : Nat) ∧ n ≤ high := by
  simp only [stepUp, Outcome.ite_error_eq_ok_iff, Except.ok.injEq, Bool.not_eq_true',
    Bool.not_eq_false, Int.not_lt]
  refine and_congr_right fun _ => ?_
  constructor
  · rintro ⟨small, rfl⟩
    exact ⟨by omega, small⟩
  · rintro ⟨rfl, small⟩
    exact ⟨by omega, by omega⟩

/-- The bounds are tested digit by digit, which is the same as testing the number itself: no further
digit brings a number back. -/
theorem foldlM_stepUp_eq_ok_iff {high : Int} {digits : List Char} {start : Nat} {n : Int}
    (small : start ≤ high) : digits.foldlM (stepUp high) (start : Int) = .ok n ↔
      (∀ c ∈ digits, c.isDigit) ∧ n = Nat.ofDigitChars 10 digits start ∧ n ≤ high := by
  induction digits generalizing start with
  | nil =>
    rw [List.foldlM_nil, Nat.ofDigitChars_nil]
    change Except.ok (start : Int) = .ok n ↔ _
    rw [Except.ok.injEq]
    constructor
    · rintro rfl
      exact ⟨by simp, rfl, small⟩
    · rintro ⟨-, rfl, -⟩
      rfl
  | cons c digits ih =>
    have later := le_ofDigitChars digits (10 * start + digitValue c)
    simp only [List.foldlM_cons, Outcome.bind_eq_ok_iff, stepUp_eq_ok_iff, List.forall_mem_cons,
      Nat.ofDigitChars_cons]
    constructor
    · rintro ⟨next, ⟨isDigit, rfl, nextSmall⟩, rest⟩
      obtain ⟨areDigits, value⟩ := (ih nextSmall).1 rest
      exact ⟨⟨isDigit, areDigits⟩, value⟩
    · rintro ⟨⟨isDigit, areDigits⟩, rfl, within⟩
      have nextSmall : ((10 * start + digitValue c : Nat) : Int) ≤ high :=
        Int.le_trans (Int.ofNat_le.2 later) within
      exact ⟨_, ⟨isDigit, rfl, nextSmall⟩, (ih nextSmall).2 ⟨areDigits, rfl, within⟩⟩

/-- Behind a minus sign a number is read as its opposite without one. -/
theorem stepDown_neg_eq_ok_iff {low value n : Int} {c : Char} :
    stepDown low (-value) c = .ok (-n) ↔ stepUp (-low) value c = .ok n := by
  simp only [stepDown, stepUp, Outcome.ite_error_eq_ok_iff, Except.ok.injEq]
  refine and_congr_right fun _ => ?_
  omega

theorem foldlM_stepDown_neg_eq_ok_iff {low value n : Int} {digits : List Char} :
    digits.foldlM (stepDown low) (-value) = .ok (-n) ↔
      digits.foldlM (stepUp (-low)) value = .ok n := by
  induction digits generalizing value with
  | nil =>
    change Except.ok (-value) = .ok (-n) ↔ Except.ok value = .ok n
    rw [Except.ok.injEq, Except.ok.injEq, Int.neg_inj]
  | cons c digits ih =>
    simp only [List.foldlM_cons, Outcome.bind_eq_ok_iff]
    constructor
    · rintro ⟨next, step, rest⟩
      rw [← Int.neg_neg next] at step rest
      exact ⟨-next, stepDown_neg_eq_ok_iff.1 step, ih.1 rest⟩
    · rintro ⟨next, step, rest⟩
      exact ⟨-next, stepDown_neg_eq_ok_iff.2 step, ih.2 rest⟩

section

variable {low high : Int} (fromLow : low ≤ 0) (toHigh : 0 ≤ high)

include toHigh in
theorem foldlM_stepUp_zero_eq_ok_iff {digits : List Char} {n : Int} :
    digits.foldlM (stepUp high) 0 = .ok n ↔
      (∀ c ∈ digits, c.isDigit) ∧ n = Nat.ofDigitChars 10 digits 0 ∧ n ≤ high :=
  foldlM_stepUp_eq_ok_iff (by omega : ((0 : Nat) : Int) ≤ high)

include fromLow in
theorem foldlM_stepDown_zero_eq_ok_iff {digits : List Char} {n : Int} :
    digits.foldlM (stepDown low) 0 = .ok n ↔
      (∀ c ∈ digits, c.isDigit) ∧ n = -(Nat.ofDigitChars 10 digits 0 : Int) ∧ low ≤ n := by
  have mirrored : digits.foldlM (stepDown low) (-0) = .ok (-(-n)) ↔ _ :=
    foldlM_stepDown_neg_eq_ok_iff
  rw [Int.neg_neg, Int.neg_zero, foldlM_stepUp_zero_eq_ok_iff (by omega)] at mirrored
  rw [mirrored]
  exact and_congr_right fun _ => by omega

include fromLow toHigh

theorem readInteger_chars_eq_ok_iff (s : Signed) {n : Int} :
    readInteger low high s.chars = .ok n ↔ s.value = n ∧ low ≤ n ∧ n ≤ high := by
  obtain ⟨sign, digits, isDigit, nonempty⟩ := s
  obtain ⟨c, rest, rfl⟩ := List.exists_cons_of_ne_nil nonempty
  have first := isDigit c (List.mem_cons_self ..)
  simp only [Signed.chars, Signed.value]
  cases sign with
  | minus =>
    change (c :: rest).foldlM (stepDown low) 0 = .ok n ↔ _
    rw [foldlM_stepDown_zero_eq_ok_iff fromLow, and_iff_right isDigit, Sign.apply]
    omega
  | plus =>
    change (c :: rest).foldlM (stepUp high) 0 = .ok n ↔ _
    rw [foldlM_stepUp_zero_eq_ok_iff toHigh, and_iff_right isDigit, Sign.apply]
    · omega
    · exact Sign.noConfusion
  | none =>
    have unsigned : readInteger low high (c :: rest) = (c :: rest).foldlM (stepUp high) 0 := by
      unfold readInteger
      split <;> simp_all
    change readInteger low high (c :: rest) = .ok n ↔ _
    rw [unsigned, foldlM_stepUp_zero_eq_ok_iff toHigh, and_iff_right isDigit, Sign.apply]
    · omega
    · exact Sign.noConfusion

theorem exists_chars_of_readInteger {text : List Char} {n : Int}
    (found : readInteger low high text = .ok n) : ∃ s : Signed, text = s.chars := by
  unfold readInteger at found
  split at found
  · cases found
  · cases found
  · cases found
  · next digits proper =>
    exact ⟨⟨.minus, digits, ((foldlM_stepDown_zero_eq_ok_iff fromLow).1 found).1, proper⟩, rfl⟩
  · next digits proper =>
    exact ⟨⟨.plus, digits, ((foldlM_stepUp_zero_eq_ok_iff toHigh).1 found).1, proper⟩, rfl⟩
  · next proper _ _ _ _ =>
    exact ⟨⟨.none, text, ((foldlM_stepUp_zero_eq_ok_iff toHigh).1 found).1, proper⟩, rfl⟩

theorem readInteger_eq_ok_iff {text : List Char} {n : Int} :
    readInteger low high text = .ok n ↔
      ∃ s : Signed, text = s.chars ∧ s.value = n ∧ low ≤ n ∧ n ≤ high := by
  constructor
  · intro found
    obtain ⟨s, rfl⟩ := exists_chars_of_readInteger fromLow toHigh found
    exact ⟨s, rfl, (readInteger_chars_eq_ok_iff fromLow toHigh s).1 found⟩
  · rintro ⟨s, rfl, value⟩
    exact (readInteger_chars_eq_ok_iff fromLow toHigh s).2 value

end

end PriceLadder.Numeral
