set_option autoImplicit false

namespace PriceLadder.Numeral

inductive RealFault where
  | empty
  | malformed
deriving DecidableEq, Repr

def RealFault.message : RealFault → String
  | .empty => "cannot parse float from empty string"
  | .malformed => "invalid float literal"

/-- The exponent behind `e`: an optional sign and at least one digit. -/
def readExponent? (text : List Char) : Option Int :=
  let (sign, digits) : Int × List Char :=
    match text with
    | '-' :: rest => (-1, rest)
    | '+' :: rest => (1, rest)
    | rest => (1, rest)
  if digits.isEmpty || !digits.all Char.isDigit then none
  else some (sign * Nat.ofDigitChars 10 digits 0)

def nearestDouble (coefficient : Nat) (exponent : Int) : Float :=
  Float.ofScientific coefficient (exponent < 0) exponent.natAbs

def readDecimal? (text : List Char) : Option Float := do
  let (whole, rest) := text.span Char.isDigit
  let (fraction, tail) :=
    match rest with
    | '.' :: more => more.span Char.isDigit
    | _ => ([], rest)
  if whole.isEmpty && fraction.isEmpty then none
  let exponent ←
    match tail with
    | [] => some 0
    | c :: more => if c = 'e' || c = 'E' then readExponent? more else none
  let digits := whole ++ fraction
  some (nearestDouble (Nat.ofDigitChars 10 digits 0) (exponent - fraction.length))

/-- The double without a sign that a text writes or names. -/
def readMagnitude? (text : List Char) : Option Float :=
  let name := String.ofList (text.map Char.toLower)
  if name = "inf" || name = "infinity" then some (1 / 0)
  else if name = "nan" then some (0 / 0)
  else readDecimal? text

/-- The double that a text writes: an optional sign and then a decimal with an optional point and
exponent, or a name of infinity or of what is not a number. A decimal beyond the greatest double
gives infinity. -/
def readReal (text : List Char) : Except RealFault Float :=
  let magnitude? :=
    match text with
    | '-' :: rest => (readMagnitude? rest).map Float.neg
    | '+' :: rest => readMagnitude? rest
    | rest => readMagnitude? rest
  match text, magnitude? with
  | [], _ => .error .empty
  | _, some x => .ok x
  | _, none => .error .malformed

example : (readReal "-.5E1".toList).toOption = some (-5) := by decide +kernel
example : (readReal "5.".toList).toOption = some 5 := by decide +kernel
example : (readReal ".".toList).toOption = none := by decide +kernel

end PriceLadder.Numeral
