import PriceLadder.Price.Basic

set_option autoImplicit false

namespace PriceLadder.Price

/-- The last `width` decimal digits of `n`, with zeros in front as needed. -/
def lastDigits : (width n : Nat) → List Char
  | 0, _ => []
  | width + 1, n => lastDigits width (n / 10) ++ [(n % 10).digitChar]

theorem length_lastDigits (width n : Nat) : (lastDigits width n).length = width := by
  induction width generalizing n with
  | zero => rfl
  | succ width ih => simp [lastDigits, ih]

def trimZeros (digits : List Char) : List Char :=
  (digits.reverse.dropWhile (· = '0')).reverse

def wholeDigits (p : Price) : List Char :=
  Nat.toDigits 10 (p.atoms.toNat / Nat.pow 10 decimals)

def fractionDigits (p : Price) : List Char :=
  trimZeros (lastDigits decimals (p.atoms.toNat % Nat.pow 10 decimals))

def chars (p : Price) : List Char :=
  match p.fractionDigits with
  | [] => p.wholeDigits
  | fraction => p.wholeDigits ++ '.' :: fraction

/-- The whole part and, behind a point, the fraction without the zeros at its end. Each price has
exactly one such text. -/
def text (p : Price) : String :=
  String.ofList p.chars

instance : ToString Price := ⟨text⟩

example : Price.text ⟨10 ^ 24 + 10 ^ 20⟩ = "1.0001" := by decide +kernel
example : Price.text ⟨1⟩ = "0.000000000000000000000001" := by decide +kernel

end PriceLadder.Price
