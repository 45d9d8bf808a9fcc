import PriceLadder.Json.Number
import PriceLadder.Numeral.Real

set_option autoImplicit false

namespace PriceLadder.Json

/-- A token. A string has no text if its escapes leave half of a surrogate pair alone. -/
inductive Token where
  | openBrace
  | closeBrace
  | openBracket
  | closeBracket
  | colon
  | comma
  | null
  | bool (value : Bool)
  | number (value : Number)
  | string (text : Option String)
deriving DecidableEq

namespace Token

def hexValue? (c : Char) : Option Nat :=
  if c.isDigit then some (c.toNat - '0'.toNat)
  else if 'a' ≤ c && c ≤ 'f' then some (c.toNat - 'a'.toNat + 10)
  else if 'A' ≤ c && c ≤ 'F' then some (c.toNat - 'A'.toNat + 10)
  else none

def hexNumber? (digits : List Char) : Option Nat :=
  digits.foldlM (fun n c => (n * 16 + ·) <$> hexValue? c) 0

/-- The character of a short escape, by the character behind the backslash. -/
def shortEscape? : Char → Option Char
  | '"' => some '"'
  | '\\' => some '\\'
  | '/' => some '/'
  | 'b' => some '\x08'
  | 'f' => some '\x0c'
  | 'n' => some '\n'
  | 'r' => some '\r'
  | 't' => some '\t'
  | _ => none

def consUnit (unit : Nat) (scanned : Option (List Nat × List Char)) :
    Option (List Nat × List Char) :=
  scanned.map fun (units, rest) => (unit :: units, rest)

/-- The code units of a string up to its closing quote, and what follows it. -/
def scanString : List Char → Option (List Nat × List Char)
  | [] => none
  | '"' :: rest => some ([], rest)
  | '\\' :: 'u' :: a :: b :: c :: d :: rest =>
    match hexNumber? [a, b, c, d] with
    | some unit => consUnit unit (scanString rest)
    | none => none
  | '\\' :: c :: rest =>
    match shortEscape? c with
    | some char => consUnit char.toNat (scanString rest)
    | none => none
  | c :: rest => if c < ' ' then none else consUnit c.toNat (scanString rest)

def isHighSurrogate (unit : Nat) : Bool :=
  0xD800 ≤ unit && unit < 0xDC00

def isLowSurrogate (unit : Nat) : Bool :=
  0xDC00 ≤ unit && unit < 0xE000

/-- The characters of code units; none if half of a surrogate pair stands alone. -/
def charsOfUnits? : List Nat → Option (List Char)
  | [] => some []
  | high :: low :: rest =>
    if isHighSurrogate high then
      if isLowSurrogate low then
        let char := Char.ofNat (0x10000 + (high - 0xD800) * 0x400 + (low - 0xDC00))
        (char :: ·) <$> charsOfUnits? rest
      else none
    else if isLowSurrogate high then none
    else (Char.ofNat high :: ·) <$> charsOfUnits? (low :: rest)
  | [unit] => if isHighSurrogate unit || isLowSurrogate unit then none else some [Char.ofNat unit]

/-- The whole part of a number: zero alone, or digits that do not begin with a zero. -/
def isWholePart (digits : List Char) : Bool :=
  digits = ['0'] || (!digits.isEmpty && digits.head? ≠ some '0')

/-- The fraction behind the whole part, if there is one, and what follows it; none if a point
has no digits behind it. -/
def scanFraction? (text : List Char) : Option (Option (List Char) × List Char) :=
  match text with
  | '.' :: rest =>
    let digits := rest.takeWhile Char.isDigit
    if digits.isEmpty then none else some (some digits, rest.dropWhile Char.isDigit)
  | _ => some (none, text)

def exponentSpan (text : List Char) : List Char × List Char :=
  match text with
  | '-' :: rest => ('-' :: rest.takeWhile Char.isDigit, rest.dropWhile Char.isDigit)
  | '+' :: rest => ('+' :: rest.takeWhile Char.isDigit, rest.dropWhile Char.isDigit)
  | _ => (text.takeWhile Char.isDigit, text.dropWhile Char.isDigit)

def scanExponent? (text : List Char) : Option (Option Int × List Char) :=
  match text with
  | 'e' :: rest | 'E' :: rest =>
    match Numeral.readExponent? (exponentSpan rest).1 with
    | some exponent => some (some exponent, (exponentSpan rest).2)
    | none => none
  | _ => some (none, text)

def scanNumber? (negative : Bool) (text : List Char) : Option (Token × List Char) :=
  let whole := text.takeWhile Char.isDigit
  if !isWholePart whole then none
  else
    match scanFraction? (text.dropWhile Char.isDigit) with
    | none => none
    | some (fraction, rest) =>
      match scanExponent? rest with
      | none => none
      | some (exponent, rest) => some (.number ⟨negative, whole, fraction, exponent⟩, rest)

/-- The token at the front of a text without white space there, and what follows it. -/
def scan? (text : List Char) : Option (Token × List Char) :=
  match text with
  | '{' :: rest => some (.openBrace, rest)
  | '}' :: rest => some (.closeBrace, rest)
  | '[' :: rest => some (.openBracket, rest)
  | ']' :: rest => some (.closeBracket, rest)
  | ':' :: rest => some (.colon, rest)
  | ',' :: rest => some (.comma, rest)
  | 'n' :: 'u' :: 'l' :: 'l' :: rest => some (.null, rest)
  | 't' :: 'r' :: 'u' :: 'e' :: rest => some (.bool true, rest)
  | 'f' :: 'a' :: 'l' :: 's' :: 'e' :: rest => some (.bool false, rest)
  | '"' :: rest =>
    match scanString rest with
    | some (units, rest) => some (.string ((charsOfUnits? units).map String.ofList), rest)
    | none => none
  | '-' :: rest => scanNumber? true rest
  | _ => scanNumber? false text

def isSpace (c : Char) : Bool :=
  c = ' ' || c = '\t' || c = '\n' || c = '\r'

theorem length_of_consUnit {unit : Nat} {scanned : Option (List Nat × List Char)}
    {units : List Nat} {rest text : List Char}
    (ih : ∀ {units rest}, scanned = some (units, rest) → rest.length < text.length)
    (h : consUnit unit scanned = some (units, rest)) : rest.length < text.length := by
  obtain ⟨⟨inner, tail⟩, found, same⟩ := Option.map_eq_some_iff.1 h
  obtain ⟨-, rfl⟩ := Prod.mk.inj same
  exact ih found

theorem length_scanString_lt {text : List Char} {units : List Nat} {rest : List Char}
    (h : scanString text = some (units, rest)) : rest.length < text.length := by
  fun_induction scanString text generalizing units rest with
  | case1 => simp at h
  | case2 tail =>
    obtain ⟨-, rfl⟩ := Prod.mk.inj (Option.some.inj h)
    exact Nat.lt_succ_self _
  | case3 a b c d tail unit _ ih =>
    have := length_of_consUnit ih h
    simp only [List.length_cons]
    omega
  | case4 => simp at h
  | case5 c tail _ char _ ih =>
    have := length_of_consUnit ih h
    simp only [List.length_cons]
    omega
  | case6 => simp at h
  | case7 => simp at h
  | case8 c tail _ _ _ _ ih => exact Nat.lt_succ_of_lt (length_of_consUnit ih h)

theorem length_dropWhile_le (p : Char → Bool) (text : List Char) :
    (text.dropWhile p).length ≤ text.length :=
  (List.dropWhile_suffix p).length_le

theorem length_scanFraction?_le {text rest : List Char} {fraction : Option (List Char)}
    (h : scanFraction? text = some (fraction, rest)) : rest.length ≤ text.length := by
  unfold scanFraction? at h
  split at h
  · next tail =>
    dsimp only at h
    split at h
    · simp at h
    · obtain ⟨-, rfl⟩ := Prod.mk.inj (Option.some.inj h)
      exact Nat.le_succ_of_le (length_dropWhile_le _ tail)
  · obtain ⟨-, rfl⟩ := Prod.mk.inj (Option.some.inj h)
    exact Nat.le_refl _

theorem length_exponentSpan_le (text : List Char) :
    (exponentSpan text).2.length ≤ text.length := by
  unfold exponentSpan
  split
  · exact Nat.le_succ_of_le (length_dropWhile_le _ _)
  · exact Nat.le_succ_of_le (length_dropWhile_le _ _)
  · exact length_dropWhile_le _ _

theorem length_scanExponent?_le {text rest : List Char} {exponent : Option Int}
    (h : scanExponent? text = some (exponent, rest)) : rest.length ≤ text.length := by
  unfold scanExponent? at h
  split at h
  · next tail =>
    split at h
    · obtain ⟨-, rfl⟩ := Prod.mk.inj (Option.some.inj h)
      exact Nat.le_succ_of_le (length_exponentSpan_le tail)
    · simp at h
  · next tail =>
    split at h
    · obtain ⟨-, rfl⟩ := Prod.mk.inj (Option.some.inj h)
      exact Nat.le_succ_of_le (length_exponentSpan_le tail)
    · simp at h
  · obtain ⟨-, rfl⟩ := Prod.mk.inj (Option.some.inj h)
    exact Nat.le_refl _

theorem length_dropWhile_lt_of_isWholePart {text : List Char}
    (h : isWholePart (text.takeWhile Char.isDigit)) :
    (text.dropWhile Char.isDigit).length < text.length := by
  cases text with
  | nil => simp [isWholePart] at h
  | cons c tail =>
    cases digit : c.isDigit with
    | false => simp [isWholePart, digit] at h
    | true =>
      rw [List.dropWhile_cons_of_pos digit]
      exact Nat.lt_succ_of_le (length_dropWhile_le _ tail)

theorem length_scanNumber?_lt {negative : Bool} {text rest : List Char} {token : Token}
    (h : scanNumber? negative text = some (token, rest)) : rest.length < text.length := by
  unfold scanNumber? at h
  dsimp only at h
  split at h
  · simp at h
  · next whole =>
    have shorter := length_dropWhile_lt_of_isWholePart (by simpa using whole)
    split at h
    · simp at h
    · next fractionFound =>
      have fraction := length_scanFraction?_le fractionFound
      split at h
      · simp at h
      · next exponentFound =>
        have exponent := length_scanExponent?_le exponentFound
        obtain ⟨-, rfl⟩ := Prod.mk.inj (Option.some.inj h)
        omega

theorem length_scan?_lt {text rest : List Char} {token : Token}
    (h : scan? text = some (token, rest)) : rest.length < text.length := by
  unfold scan? at h
  split at h
  case h_10 =>
    split at h
    · next found =>
      obtain ⟨-, rfl⟩ := Prod.mk.inj (Option.some.inj h)
      exact Nat.lt_succ_of_lt (length_scanString_lt found)
    · simp at h
  case h_11 => exact Nat.lt_succ_of_lt (length_scanNumber?_lt h)
  case h_12 => exact length_scanNumber?_lt h
  all_goals
    obtain ⟨-, rfl⟩ := Prod.mk.inj (Option.some.inj h)
    simp only [List.length_cons]
    omega

set_option linter.unusedVariables false in
/-- The tokens of a text. The scan ends because every token takes at least one character. -/
def ofChars? (text : List Char) : Option (List Token) :=
  match spaces : text.dropWhile isSpace with
  | [] => some []
  | c :: front =>
    match scanned : scan? (c :: front) with
    | none => none
    | some (token, rest) => (ofChars? rest).map (token :: ·)
termination_by text.length
decreasing_by
  have shorter := length_scan?_lt scanned
  have trimmed := length_dropWhile_le isSpace text
  rw [spaces] at trimmed
  omega

end Token

end PriceLadder.Json
