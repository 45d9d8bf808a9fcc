import PriceLadder.Decimal.Layout
import PriceLadder.Price.Literal
import PriceLadder.Price.Printer
import PriceLadder.Text.Quoted

set_option autoImplicit false

namespace PriceLadder

inductive InputFault where
  | priceNotPositive (price : Float)
  | badTolerance (tolerance : Float)
  | zeroPrice
  /-- An exact price lies below the smallest one that a ladder can address. -/
  | priceTooFine (price : Price)
  | noPrice (value : Float)
  | badPriceText (fault : Price.Literal.Fault) (text : String)
  | ticksNotAscending (lower upper : Int32)
  | pricesNotAscending (lower upper : Price)
  | factorTooSmall (factor : Price)
  | spacingNotPositive (spacing : Int32)
deriving DecidableEq

inductive Outlier where
  | tick (value : Int64) (least greatest : Int32)
  | approximatePrice (price least greatest : Float)
  | exactPrice (price least greatest : Price)
  /-- No two multiples of the spacing enclose the band. -/
  | band (lower upper : Price) (least greatest : Int32)
  /-- No multiple of the spacing lies between the bounds. -/
  | spacing (value least greatest : Int32)
deriving DecidableEq

inductive SettingsFault where
  | badWidth (width : Int32)
  | boundsNotAscending (least greatest : Int32)
  /-- The lowest decade climbs by less than an atom, `10 ^ step`. -/
  | stepTooFine (least : Int32) (step : Int)
  /-- The highest decade reaches prices up to `10 ^ reach`, which do not fit. -/
  | pricesTooLarge (greatest : Int32) (reach : Int)
  | badTolerance (tolerance : Float)
  | noExactPrice (tick : Int32)
deriving DecidableEq

inductive Error where
  | invalidInput (fault : InputFault)
  | outOfRange (outlier : Outlier)
  | precisionLoss (tick : Int32) (expected actual : Float)
  | invalidSettings (fault : SettingsFault)
deriving DecidableEq

def Error.floatText (x : Float) : String :=
  Decimal.Layout.plain.render x

def InputFault.message : InputFault → String
  | .priceNotPositive price =>
    s!"price must be positive and finite, got {Error.floatText price}"
  | .badTolerance tolerance =>
    s!"tolerance must be finite and non-negative, got {Error.floatText tolerance}"
  | .zeroPrice => "price must be positive, got 0"
  | .priceTooFine price => s!"price {price} is finer than the curve resolution"
  | .noPrice value => s!"price must be finite and non-negative, got {Error.floatText value}"
  | .badPriceText fault text => s!"{fault.message}: {Text.quoted text}"
  | .ticksNotAscending lower upper => s!"lower tick {lower} must be below upper tick {upper}"
  | .pricesNotAscending lower upper => s!"lower price {lower} must be below upper price {upper}"
  | .factorTooSmall factor => s!"band factor must be greater than 1, got {factor}"
  | .spacingNotPositive spacing => s!"tick spacing must be positive, got {spacing}"

def Outlier.message : Outlier → String
  | .tick value least greatest => s!"{value} is outside [{least}, {greatest}]"
  | .approximatePrice price least greatest =>
    s!"{Error.floatText price} is outside [{Error.floatText least}, {Error.floatText greatest}]"
  | .exactPrice price least greatest => s!"{price} is outside [{least}, {greatest}]"
  | .band lower upper least greatest =>
    s!"[{lower}, {upper}] is outside [{least}, {greatest}]"
  | .spacing value least greatest =>
    s!"tick spacing {value} is outside [{least}, {greatest}]"

def SettingsFault.message : SettingsFault → String
  | .badWidth width => s!"decade width must be 9 * 10^k with 1 <= k <= 8, got {width}"
  | .boundsNotAscending least greatest =>
    s!"min_tick {least} must be below max_tick {greatest}"
  | .stepTooFine least step =>
    s!"min_tick {least} needs a price step of 10^{step}, below the 10^-24 price resolution"
  | .pricesTooLarge greatest reach =>
    s!"max_tick {greatest} reaches prices up to 10^{reach}, beyond the largest representable price"
  | .badTolerance tolerance =>
    s!"precision_tolerance must be finite and non-negative, got {Error.floatText tolerance}"
  | .noExactPrice tick => s!"tick {tick} has no exact price on this curve"

def Error.message : Error → String
  | .invalidInput fault => s!"Invalid input: {fault.message}"
  | .outOfRange outlier => s!"Out of range: {outlier.message}"
  | .precisionLoss tick expected actual =>
    s!"Precision loss: tick {tick} encodes to {floatText actual}, " ++
      s!"but the decoded price was {floatText expected}"
  | .invalidSettings fault => s!"Invalid curve config: {fault.message}"

end PriceLadder
