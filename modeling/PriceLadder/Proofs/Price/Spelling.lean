import PriceLadder.Price.Literal
import PriceLadder.Proofs.Numeral.Integer
import PriceLadder.Proofs.Price.Digits

set_option autoImplicit false

namespace PriceLadder.Price

theorem plain_char {c : Char} (member : c.isDigit ∨ c = '.') :
    Text.isBlank c = false ∧ Literal.isExponentMark c = false ∧ c ≠ '+' ∧ c ≠ '-' := by
  rcases member with isDigit | rfl
  · have all : ∀ n < 10, Text.isBlank n.digitChar = false ∧
        Literal.isExponentMark n.digitChar = false ∧ n.digitChar ≠ '+' ∧ n.digitChar ≠ '-' := by
      decide
    rw [← digitChar_toNat_sub isDigit]
    exact all _ (toNat_sub_lt_ten isDigit)
  · decide

theorem ne_point {c : Char} (isDigit : c.isDigit) : c ≠ '.' := by
  rintro rfl
  cases isDigit

/-- A fraction with its point, if there is one. -/
def pointed : Option (List Char) → List Char
  | none => []
  | some digits => '.' :: digits

structure Exponent where
  mark : Char
  power : Numeral.Signed
  isMark : mark = 'e' ∨ mark = 'E'

def marked : Option Exponent → List Char
  | none => []
  | some exponent => exponent.mark :: exponent.power.chars

def powerOf : Option Exponent → Int
  | none => 0
  | some exponent => exponent.power.value

/-- A written price, part by part: a plus sign or none, digits with at most one point before,
between or behind them, and an exponent or none. -/
structure Spelling where
  plus : Bool
  whole : List Char
  /-- What stands behind the point, if there is one. -/
  fraction : Option (List Char)
  exponent : Option Exponent
  isDigit : ∀ c ∈ whole ++ fraction.getD [], c.isDigit
  nonempty : whole ++ fraction.getD [] ≠ []

namespace Spelling

/-- The characters before the exponent, without the sign. -/
def mantissaChars (s : Spelling) : List Char :=
  s.whole ++ pointed s.fraction

def exponentChars (s : Spelling) : List Char :=
  marked s.exponent

def chars (s : Spelling) : List Char :=
  (if s.plus then ['+'] else []) ++ (s.mantissaChars ++ s.exponentChars)

def power (s : Spelling) : Int :=
  powerOf s.exponent

/-- What is left of a written price when it is read. -/
def literal (s : Spelling) : Literal :=
  ⟨s.whole, s.fraction.getD [], s.power⟩

theorem isDigit_or_eq_point {s : Spelling} {c : Char} (member : c ∈ s.mantissaChars) :
    c.isDigit ∨ c = '.' := by
  have isDigit := s.isDigit
  unfold mantissaChars at member
  cases fraction : s.fraction with
  | none =>
    rw [fraction, pointed, List.append_nil] at member
    exact .inl (isDigit c (List.mem_append_left _ member))
  | some digits =>
    rw [fraction, pointed, List.mem_append, List.mem_cons] at member
    rw [fraction, Option.getD_some] at isDigit
    rcases member with inWhole | point | inFraction
    · exact .inl (isDigit c (List.mem_append_left _ inWhole))
    · exact .inr point
    · exact .inl (isDigit c (List.mem_append_right _ inFraction))

theorem mantissaChars_ne_nil (s : Spelling) : s.mantissaChars ≠ [] := by
  intro none
  obtain ⟨whole, fraction⟩ := List.append_eq_nil_iff.1 none
  apply s.nonempty
  cases behind : s.fraction with
  | none => rw [whole, Option.getD_none, List.append_nil]
  | some digits =>
    rw [behind] at fraction
    cases fraction

/-- The first character behind the sign is a digit or the point. -/
theorem head?_unsigned {s : Spelling} {c : Char}
    (front : (s.mantissaChars ++ s.exponentChars).head? = some c) : c ≠ '+' ∧ c ≠ '-' := by
  rw [List.head?_append_of_ne_nil _ s.mantissaChars_ne_nil] at front
  exact (plain_char (isDigit_or_eq_point (List.mem_of_head? front))).2.2

end Spelling

namespace Literal

theorem dropWhile_cases {α : Type} (p : α → Bool) (l : List α) :
    l.dropWhile p = [] ∨ ∃ a rest, l.dropWhile p = a :: rest ∧ p a = false := by
  cases left : l.dropWhile p with
  | nil => exact .inl rfl
  | cons a rest =>
    have first := List.head?_dropWhile_not p l
    rw [left, List.head?_cons] at first
    exact .inr ⟨a, rest, rfl, by simpa using first⟩

theorem dropPlus_eq_self {text : List Char} (unsigned : text.head? ≠ some '+') :
    dropPlus text = text := by
  unfold dropPlus
  split
  · exact absurd rfl unsigned
  · rfl

theorem exists_eq_append_dropPlus (text : List Char) :
    ∃ plus : Bool, text = (if plus then ['+'] else []) ++ dropPlus text := by
  unfold dropPlus
  split
  · exact ⟨true, rfl⟩
  · exact ⟨false, rfl⟩

theorem isExponentMark_iff {c : Char} : isExponentMark c = true ↔ c = 'e' ∨ c = 'E' := by
  rw [isExponentMark, Bool.or_eq_true, decide_eq_true_eq, decide_eq_true_eq]

theorem split_pointed {whole : List Char} (fraction : Option (List Char))
    (wholeDigits : ∀ c ∈ whole, c.isDigit) :
    (whole ++ pointed fraction).takeWhile (· ≠ '.') = whole ∧
      ((whole ++ pointed fraction).dropWhile (· ≠ '.')).drop 1 = fraction.getD [] := by
  have noPoint : ∀ c ∈ whole, decide (c ≠ '.') = true := fun c member =>
    decide_eq_true (ne_point (wholeDigits c member))
  rw [List.takeWhile_append_of_pos noPoint, List.dropWhile_append_of_pos noPoint]
  cases fraction with
  | none => exact ⟨List.append_nil _, rfl⟩
  | some digits => exact ⟨List.append_nil _, rfl⟩

/-- A mantissa is read if it is digits on one side of a point or both, or without a point. -/
theorem ofMantissa_eq_ok_iff {mantissa : List Char} {exponent : Int} {literal : Literal} :
    ofMantissa mantissa exponent = .ok literal ↔ ∃ fraction : Option (List Char),
      mantissa = literal.whole ++ pointed fraction ∧
      literal = ⟨literal.whole, fraction.getD [], exponent⟩ ∧
      (∀ c ∈ literal.whole ++ fraction.getD [], c.isDigit) ∧
      literal.whole ++ fraction.getD [] ≠ [] := by
  have checked {whole fraction : List Char} :
      ¬ ((whole ++ fraction = [] || !(whole ++ fraction).all Char.isDigit) = true) ↔
        (∀ c ∈ whole ++ fraction, c.isDigit) ∧ whole ++ fraction ≠ [] := by
    rw [Bool.or_eq_true, not_or, decide_eq_true_eq, Bool.not_eq_true', Bool.not_eq_false,
      List.all_eq_true, and_comm]
  simp only [ofMantissa, Outcome.ite_error_eq_ok_iff, Except.ok.injEq, checked]
  constructor
  · rintro ⟨digits, rfl⟩
    have parts : mantissa.takeWhile (· ≠ '.') ++ mantissa.dropWhile (· ≠ '.') = mantissa :=
      List.takeWhile_append_dropWhile
    rcases dropWhile_cases (· ≠ '.') mantissa with none | ⟨c, rest, some, point⟩
    · rw [none] at parts digits ⊢
      exact ⟨.none, parts.symm, rfl, digits⟩
    · rw [decide_eq_false_iff_not, not_not] at point
      rw [some, point] at parts digits
      rw [some]
      exact ⟨.some rest, parts.symm, rfl, digits⟩
  · rintro ⟨fraction, rfl, same, digits⟩
    obtain ⟨front, behind⟩ := split_pointed fraction fun c member =>
      digits.1 c (List.mem_append_left _ member)
    rw [front, behind]
    exact ⟨digits, same.symm⟩

def FitsInt64 (n : Int) : Prop :=
  -2 ^ 63 ≤ n ∧ n < 2 ^ 63

theorem readInteger_int64_eq_ok_iff {text : List Char} {n : Int} :
    Numeral.readInteger Int64.minValue.toInt Int64.maxValue.toInt text = .ok n ↔
      ∃ power : Numeral.Signed, text = power.chars ∧ power.value = n ∧ FitsInt64 n := by
  have low : Int64.minValue.toInt = -2 ^ 63 := rfl
  have high : Int64.maxValue.toInt = 2 ^ 63 - 1 := rfl
  rw [Numeral.readInteger_eq_ok_iff (by omega) (by omega), low, high]
  simp only [FitsInt64, Int.le_sub_one_iff]

theorem readExponent_cons_eq_ok_iff {mark : Char} {text : List Char} {n : Int} :
    readExponent (mark :: text) = .ok n ↔
      ∃ power : Numeral.Signed, text = power.chars ∧ power.value = n ∧ FitsInt64 n := by
  rw [← readInteger_int64_eq_ok_iff, readExponent]
  cases Numeral.readInteger Int64.minValue.toInt Int64.maxValue.toInt text <;> simp

theorem readExponent_marked {exponent : Option Exponent} (fits : FitsInt64 (powerOf exponent)) :
    readExponent (marked exponent) = .ok (powerOf exponent) := by
  cases exponent with
  | none => rfl
  | some exponent => exact readExponent_cons_eq_ok_iff.2 ⟨exponent.power, rfl, rfl, fits⟩

theorem fitsInt64_zero : FitsInt64 0 :=
  ⟨by decide, by decide⟩

section

variable (s : Spelling)

theorem dropPlus_chars : dropPlus s.chars = s.mantissaChars ++ s.exponentChars := by
  unfold Spelling.chars
  cases s.plus with
  | false => exact dropPlus_eq_self fun front => (Spelling.head?_unsigned front).1 rfl
  | true => rfl

/-- The first mark of an exponent ends the mantissa. -/
theorem split_exponentChars :
    (s.mantissaChars ++ s.exponentChars).takeWhile (!isExponentMark ·) = s.mantissaChars ∧
      (s.mantissaChars ++ s.exponentChars).dropWhile (!isExponentMark ·) = s.exponentChars := by
  have unmarked : ∀ c ∈ s.mantissaChars, (!isExponentMark c) = true := by
    intro c member
    rw [(plain_char (Spelling.isDigit_or_eq_point member)).2.1]
    rfl
  rw [List.takeWhile_append_of_pos unmarked, List.dropWhile_append_of_pos unmarked,
    Spelling.exponentChars]
  cases s.exponent with
  | none => exact ⟨List.append_nil _, rfl⟩
  | some exponent =>
    have isMark : ¬ (!isExponentMark exponent.mark) = true := by
      rw [isExponentMark_iff.2 exponent.isMark]
      decide
    rw [marked, List.takeWhile_cons_of_neg (p := (!isExponentMark ·)) isMark,
      List.dropWhile_cons_of_neg (p := (!isExponentMark ·)) isMark]
    exact ⟨List.append_nil _, rfl⟩

theorem read_of_trim_eq {text : List Char} (spelled : Text.trim text = s.chars)
    (fits : FitsInt64 s.power) : read text = .ok s.literal := by
  have notNegative : ¬ (s.mantissaChars ++ s.exponentChars).head? = some '-' := fun front =>
    (Spelling.head?_unsigned front).2 rfl
  have exponentRead : readExponent s.exponentChars = .ok s.power := readExponent_marked fits
  obtain ⟨mantissa, exponent⟩ := split_exponentChars s
  simp only [read, spelled, dropPlus_chars, if_neg notNegative, mantissa, exponent, exponentRead,
    bind, Except.bind]
  exact ofMantissa_eq_ok_iff.2 ⟨s.fraction, rfl, rfl, s.isDigit, s.nonempty⟩

end

theorem exists_spelling_of_read {text : List Char} {literal : Literal}
    (found : read text = .ok literal) :
    ∃ s : Spelling, Text.trim text = s.chars ∧ s.literal = literal ∧ FitsInt64 s.power := by
  obtain ⟨plus, signed⟩ := exists_eq_append_dropPlus (Text.trim text)
  simp only [read, Outcome.ite_error_eq_ok_iff, Outcome.bind_eq_ok_iff] at found
  generalize dropPlus (Text.trim text) = unsigned at signed found
  obtain ⟨-, power, exponentRead, mantissaRead⟩ := found
  obtain ⟨fraction, mantissa, literal_eq, isDigit, nonempty⟩ := ofMantissa_eq_ok_iff.1 mantissaRead
  have parts : unsigned.takeWhile (!isExponentMark ·) ++ unsigned.dropWhile (!isExponentMark ·) =
    unsigned := List.takeWhile_append_dropWhile
  rw [mantissa] at parts
  rw [literal_eq, signed, ← parts]
  rcases dropWhile_cases (!isExponentMark ·) unsigned with none | ⟨mark, digits, some, marked⟩
  · rw [none] at exponentRead ⊢
    obtain rfl := Except.ok.inj exponentRead
    exact ⟨⟨plus, literal.whole, fraction, .none, isDigit, nonempty⟩, rfl, rfl, fitsInt64_zero⟩
  · rw [some] at exponentRead ⊢
    obtain ⟨written, rfl, rfl, fits⟩ := readExponent_cons_eq_ok_iff.1 exponentRead
    have isMark : mark = 'e' ∨ mark = 'E' := isExponentMark_iff.1 (by simpa using marked)
    exact ⟨⟨plus, literal.whole, fraction, .some ⟨mark, written, isMark⟩, isDigit, nonempty⟩, rfl,
      rfl, fits⟩

/-- The texts that are read are those that are spelled, with white space around them. -/
theorem read_eq_ok_iff {text : List Char} {literal : Literal} : read text = .ok literal ↔
    ∃ s : Spelling, Text.trim text = s.chars ∧ s.literal = literal ∧ FitsInt64 s.power := by
  constructor
  · exact exists_spelling_of_read
  · rintro ⟨s, spelled, rfl, fits⟩
    exact read_of_trim_eq s spelled fits

end Literal

end PriceLadder.Price
