import PriceLadder.Decimal.Shortest

set_option autoImplicit false

namespace PriceLadder.Decimal

/-- The decisions of one form of text for doubles. -/
structure Layout where
  tie : Tie
  /-- Whether a number whose first digit stands for `10 ^ leading` is written without an
  exponent. -/
  positional : (leading : Int) → Bool
  /-- Whether a whole number written without an exponent ends in `.0`. -/
  wholeMark : Bool
  plusMark : Bool

namespace Layout

def zeros (count : Nat) : List Char :=
  List.replicate count '0'

/-- The digits with the point after those for `10 ^ 0` and above. -/
def placed (layout : Layout) (digits : List Char) (leading : Int) : List Char :=
  let wholeDigits := leading + 1
  if wholeDigits ≤ 0 then
    '0' :: '.' :: zeros (-wholeDigits).toNat ++ digits
  else if digits.length ≤ wholeDigits then
    let mark := if layout.wholeMark then ['.', '0'] else []
    digits ++ zeros (wholeDigits.toNat - digits.length) ++ mark
  else
    digits.take wholeDigits.toNat ++ '.' :: digits.drop wholeDigits.toNat

def scientific (layout : Layout) (digits : List Char) (leading : Int) : List Char :=
  let mantissa :=
    match digits with
    | first :: second :: rest => first :: '.' :: second :: rest
    | short => short
  let sign := if leading < 0 then ['-'] else if layout.plusMark then ['+'] else []
  mantissa ++ 'e' :: sign ++ Nat.toDigits 10 leading.natAbs

def magnitude (layout : Layout) (digits : List Char) (leading : Int) : List Char :=
  if layout.positional leading then layout.placed digits leading
  else layout.scientific digits leading

def signed (sign : Float.Model.UnpackedFloat.Sign) (text : List Char) : List Char :=
  match sign with
  | .negative => '-' :: text
  | .positive => text

def render (layout : Layout) (x : Float) : String :=
  String.ofList <|
    match x.toModel.unpack with
    | .notANumber => ['N', 'a', 'N']
    | .infinity sign => signed sign ['i', 'n', 'f']
    | .zero sign => signed sign (layout.magnitude ['0'] 0)
    | .finite sign m e _ =>
      let point := shortest layout.tie m e
      let digits := Nat.toDigits 10 point.coefficient
      signed sign (layout.magnitude digits (point.exponent + digits.length - 1))

/-- Digits alone, however many: `0.000001`, `100000000000000000000`. -/
def plain : Layout where
  tie := .up
  positional _ := true
  wholeMark := false
  plusMark := false

end Layout

end PriceLadder.Decimal
