import PriceLadder.Json.Value
import PriceLadder.Json.Writer

set_option autoImplicit false

namespace PriceLadder.Json

namespace Token

theorem hexValue?_digitChar {n : Nat} (small : n < 16) : hexValue? n.digitChar = some n := by
  have all : ∀ n < 16, hexValue? n.digitChar = some n := by decide
  exact all n small

theorem hexNumber?_controlEscape {n : Nat} (small : n < 32) :
    hexNumber? ['0', '0', (n / 16).digitChar, (n % 16).digitChar] = some n := by
  have high := hexValue?_digitChar (show n / 16 < 16 by omega)
  have low := hexValue?_digitChar (show n % 16 < 16 by omega)
  have zero : hexValue? '0' = some 0 := rfl
  have whole : (0 * 16 + 0) * 16 + 0 = 0 := rfl
  simp only [hexNumber?, List.foldlM_cons, List.foldlM_nil, zero, high, low, Option.map_eq_map,
    Option.map_some, Option.bind_eq_bind, Option.bind_some, Option.pure_def, Option.some.injEq]
  omega

theorem scanString_cons {c : Char} (notQuote : c ≠ '"') (notBackslash : c ≠ '\\')
    (rest : List Char) : scanString (c :: rest) =
      if c < ' ' then none else consUnit c.toNat (scanString rest) := by
  rw [scanString]
  · exact notQuote
  · intro _ _ _ _ _ backslash
    exact absurd backslash notBackslash
  · intro _ _ backslash
    exact absurd backslash notBackslash

/-- A written character is read as one code unit. -/
theorem scanString_stringChar (c : Char) (rest : List Char) :
    scanString (stringChar c ++ rest) = consUnit c.toNat (scanString rest) := by
  unfold stringChar
  split
  · rfl
  · rfl
  · rfl
  · rfl
  · rfl
  · rfl
  · rfl
  · next notQuote notBackslash _ _ _ _ _ =>
    split
    · next control =>
      have escaped := hexNumber?_controlEscape (show c.toNat < 32 from control)
      rw [controlEscape, List.cons_append, List.cons_append, List.cons_append, List.cons_append,
        List.cons_append, List.cons_append, List.nil_append, scanString, escaped]
    · next printed =>
      rw [List.singleton_append, scanString_cons notQuote notBackslash, if_neg printed]

theorem scanString_flatMap (text rest : List Char) :
    scanString (text.flatMap stringChar ++ '"' :: rest) = some (text.map Char.toNat, rest) := by
  induction text with
  | nil => rfl
  | cons c text ih =>
    rw [List.flatMap_cons, List.append_assoc, scanString_stringChar, ih]
    rfl

theorem not_surrogate (c : Char) :
    isHighSurrogate c.toNat = false ∧ isLowSurrogate c.toNat = false := by
  have valid : c.toNat < 0xD800 ∨ 0xDFFF < c.toNat ∧ c.toNat < 0x110000 := c.valid
  simp only [isHighSurrogate, isLowSurrogate, Bool.and_eq_false_iff, decide_eq_false_iff_not]
  omega

/-- The code units of characters stand for these characters: no character is half of a surrogate
pair. -/
theorem charsOfUnits?_map_toNat (text : List Char) :
    charsOfUnits? (text.map Char.toNat) = some text := by
  induction text with
  | nil => rfl
  | cons c text ih =>
    have whole := not_surrogate c
    cases text with
    | nil =>
      rw [List.map_cons, List.map_nil, charsOfUnits?, whole.1, whole.2, Char.ofNat_toNat]
      rfl
    | cons d text =>
      rw [List.map_cons] at ih ⊢
      rw [List.map_cons, charsOfUnits?, whole.1, whole.2, ih, Char.ofNat_toNat]
      rfl

theorem scan?_writeString (text : String) :
    scan? (writeString text).toList = some (.string (some text), []) := by
  rw [writeString, String.toList_ofList, List.cons_append, scan?, scanString_flatMap]
  simp only [charsOfUnits?_map_toNat, Option.map_some, String.ofList_toList]

theorem ofChars?_of_scan? {c : Char} {front rest : List Char} {token : Token}
    (solid : isSpace c = false) (scanned : scan? (c :: front) = some (token, rest)) :
    ofChars? (c :: front) = (ofChars? rest).map (token :: ·) := by
  have spaces : (c :: front).dropWhile isSpace = c :: front :=
    List.dropWhile_cons_of_neg (by simp [solid])
  rw [ofChars?]
  split
  · next none =>
    rw [spaces] at none
    cases none
  · next d tail same =>
    obtain ⟨rfl, rfl⟩ := List.cons.inj (spaces.symm.trans same)
    split
    · next failed =>
      rw [scanned] at failed
      cases failed
    · next found tokensRest again =>
      rw [scanned] at again
      cases again
      rfl

theorem ofChars?_nil : ofChars? [] = some [] := by
  rw [ofChars?]
  rfl

theorem ofChars?_writeString (text : String) :
    ofChars? (writeString text).toList = some [.string (some text)] := by
  have scanned := scan?_writeString text
  have opened : (writeString text).toList = '"' :: (text.toList.flatMap stringChar ++ ['"']) := by
    rw [writeString, String.toList_ofList, List.cons_append]
  rw [opened] at scanned ⊢
  rw [ofChars?_of_scan? rfl scanned, ofChars?_nil]
  rfl

end Token

/-- A written string is read back. -/
theorem Value.ofText?_writeString (text : String) :
    Value.ofText? (writeString text) = some (.string (some text)) := by
  have found : readValue [.string (some text)] = some (.string (some text), .tail _ []) := by
    rw [readValue]
  rw [ofText?, Token.ofChars?_writeString]
  simp only [found, Fewer.tail]

end PriceLadder.Json
