import PriceLadder.Error

set_option autoImplicit false

namespace PriceLadder.Price

/-- The form in which a double is read as a price: its shortest digits with an exponent. -/
def scientific : Decimal.Layout where
  tie := .up
  positional _ := false
  wholeMark := false
  plusMark := false

/-- The price that a text writes, if it has no digits beyond the last decimal place. With
`.round` such digits are rounded away instead. -/
def read (excess : Literal.Excess) (text : String) : Except Error Price :=
  (ofChars excess text.toList).mapError fun fault => .invalidInput (.badPriceText fault text)

def ofText (text : String) : Except Error Price :=
  read .refuse text

/-- The price nearest to the shortest decimal of a double. -/
def ofFloat (value : Float) : Except Error Price :=
  if !value.isFinite || value < 0 then .error (.invalidInput (.noPrice value))
  else read .round (scientific.render value)

def toFloat (p : Price) : Float :=
  Float.ofScientific p.atoms.toNat true decimals

example : (ofFloat 1.5e-24).toOption = some ⟨2⟩ := by decide +kernel
example : toFloat ⟨10 ^ 24 + 10 ^ 20⟩ = 1.0001 := by decide +kernel

end PriceLadder.Price
