set_option autoImplicit false

namespace PriceLadder.Numeral

inductive IntegerFault where
  | empty
  | badDigit
  | tooLarge
  | tooSmall
deriving DecidableEq, Repr

def IntegerFault.message : IntegerFault → String
  | .empty => "cannot parse integer from empty string"
  | .badDigit => "invalid digit found in string"
  | .tooLarge => "number too large to fit in target type"
  | .tooSmall => "number too small to fit in target type"

def digitValue (c : Char) : Nat :=
  c.toNat - '0'.toNat

/-- The number after one more digit of a text that is not negative. -/
def stepUp (high value : Int) (c : Char) : Except IntegerFault Int :=
  let next := value * 10 + digitValue c
  if !c.isDigit then .error .badDigit
  else if high < next then .error .tooLarge
  else .ok next

/-- The number after one more digit of a text behind a minus sign. -/
def stepDown (low value : Int) (c : Char) : Except IntegerFault Int :=
  let next := value * 10 - digitValue c
  if !c.isDigit then .error .badDigit
  else if next < low then .error .tooSmall
  else .ok next

/-- The whole number from `low` to `high` that a text writes: one optional sign and decimal digits.
A fault is the first one met from the left; a digit that leads out of the bounds counts before what
follows it. -/
def readInteger (low high : Int) (text : List Char) : Except IntegerFault Int :=
  match text with
  | [] => .error .empty
  | ['+'] | ['-'] => .error .badDigit
  | '-' :: digits => digits.foldlM (stepDown low) 0
  | '+' :: digits => digits.foldlM (stepUp high) 0
  | digits => digits.foldlM (stepUp high) 0

def readInt32 (text : List Char) : Except IntegerFault Int32 :=
  (readInteger Int32.minValue.toInt Int32.maxValue.toInt text).map Int32.ofInt

example : readInt32 "-2147483648".toList = .ok (-2147483648) := rfl
example : readInt32 "99999999999x".toList = .error .tooLarge := rfl
example : readInt32 "9x9999999999".toList = .error .badDigit := rfl

end PriceLadder.Numeral
