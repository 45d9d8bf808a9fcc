import PriceLadder.Numeral.Integer
import PriceLadder.Price.Basic
import PriceLadder.Text.Blank

set_option autoImplicit false

namespace PriceLadder.Price

/-- A written decimal: the digits before and after the point, and the power of ten behind `e`. -/
structure Literal where
  whole : List Char
  fraction : List Char
  exponent : Int
deriving DecidableEq, Repr

namespace Literal

inductive Fault where
  | negative
  | badExponent
  | badDecimal
  | tooLarge
  | tooManyDecimals
deriving DecidableEq, Repr

def Fault.message : Fault → String
  | .negative => "price must be non-negative"
  | .badExponent => "malformed exponent"
  | .badDecimal => "malformed decimal"
  | .tooLarge => "price too large"
  | .tooManyDecimals => s!"price has more than {decimals} decimal places"

/-- What becomes of digits beyond the last decimal place that are not all zeros. -/
inductive Excess where
  | refuse
  /-- The price is rounded to the nearest atom, a half going up. -/
  | round
deriving DecidableEq, Repr

def checkInt64 (n : Int) : Except Fault Int :=
  if Int64.minValue.toInt ≤ n ∧ n ≤ Int64.maxValue.toInt then .ok n else .error .badExponent

def isExponentMark (c : Char) : Bool :=
  c = 'e' || c = 'E'

def dropPlus : List Char → List Char
  | '+' :: rest => rest
  | text => text

def readExponent : List Char → Except Fault Int
  | [] => .ok 0
  | _ :: digits =>
    match Numeral.readInteger Int64.minValue.toInt Int64.maxValue.toInt digits with
    | .ok exponent => .ok exponent
    | .error _ => .error .badExponent

def ofMantissa (mantissa : List Char) (exponent : Int) : Except Fault Literal :=
  let whole := mantissa.takeWhile (· ≠ '.')
  let fraction := (mantissa.dropWhile (· ≠ '.')).drop 1
  if whole ++ fraction = [] || !(whole ++ fraction).all Char.isDigit then .error .badDecimal
  else .ok ⟨whole, fraction, exponent⟩

/-- The literal that a text writes: `[+] digits [. digits] [e exponent]` with white space around it
and a digit somewhere before the exponent. -/
def read (text : List Char) : Except Fault Literal := do
  let unsigned := dropPlus (Text.trim text)
  if unsigned.head? = some '-' then .error .negative
  else
    let exponent ← readExponent (unsigned.dropWhile (!isExponentMark ·))
    ofMantissa (unsigned.takeWhile (!isExponentMark ·)) exponent

def orTooLarge : Option Atoms → Except Fault Atoms
  | some a => .ok a
  | none => .error .tooLarge

/-- The digits with `shift` zeros behind them. -/
def scaleUp (digits : List Char) (shift : Int) : Except Fault Atoms :=
  orTooLarge do
    let factor ← Atoms.pow10? shift
    let value ← Atoms.ofDigits? digits
    value.mul? factor

/-- The digits without the last `dropped` ones, of which there may be more than digits. -/
def scaleDown (excess : Excess) (digits : List Char) (dropped : Nat) : Except Fault Atoms :=
  let kept := digits.take (digits.length - dropped)
  let cut := digits.drop (digits.length - dropped)
  if cut.all (· = '0') then orTooLarge (Atoms.ofDigits? kept)
  else
    match excess with
    | .refuse => .error .tooManyDecimals
    | .round =>
      if dropped ≤ digits.length && cut.head?.any ('5' ≤ ·) then
        orTooLarge ((Atoms.ofDigits? kept).bind (·.add? 1))
      else orTooLarge (Atoms.ofDigits? kept)

def toAtoms (excess : Excess) (literal : Literal) : Except Fault Atoms := do
  let digits := literal.whole ++ literal.fraction
  let places ← checkInt64 (literal.fraction.length - literal.exponent)
  let shift ← checkInt64 (decimals - places)
  if 0 ≤ shift then scaleUp digits shift else scaleDown excess digits (-shift).toNat

end Literal

def ofChars (excess : Literal.Excess) (text : List Char) : Except Literal.Fault Price := do
  let literal ← Literal.read text
  Price.mk <$> literal.toAtoms excess

end PriceLadder.Price
