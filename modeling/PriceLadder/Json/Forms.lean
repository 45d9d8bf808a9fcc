import PriceLadder.Json.Record
import PriceLadder.Json.Writer
import PriceLadder.Price.Conversion
import PriceLadder.Settings.Basic
import PriceLadder.Tick.Decoding
import PriceLadder.Tick.Range
import PriceLadder.Rounding

set_option autoImplicit false

namespace PriceLadder

open Json (Value writeBool writeFloat writeRecord writeString)

def Price.ofJson? (value : Value) : Option Price := do
  (Price.ofText (← value.text?)).toOption

/-- A price is written as its text, so that no digit is lost. -/
def Price.toJson (price : Price) : String :=
  writeString price.text

def Rounding.ofJson? (value : Value) : Option Rounding :=
  value.choice?.bind Rounding.ofName?

def Rounding.toJson (rounding : Rounding) : String :=
  writeString rounding.name

def Policy.ofJson? (value : Value) : Option Policy :=
  value.choice?.bind Policy.ofName?

def Policy.toJson (policy : Policy) : String :=
  writeString policy.name

def TickRange.fieldNames : List String :=
  ["lower", "upper"]

/-- The range of a JSON value, in whatever order its ends are. -/
def TickRange.ofJson? (value : Value) : Option TickRange := do
  let fields ← value.record? fieldNames
  let lower ← Value.required? Value.int32? fields "lower"
  let upper ← Value.required? Value.int32? fields "upper"
  some ⟨lower, upper⟩

def TickRange.toJson (range : TickRange) : String :=
  writeRecord [("lower", toString range.lower), ("upper", toString range.upper)]

def Decoding.fieldNames : List String :=
  ["tick", "price", "encoded_price", "relative_error", "precision_loss"]

def Decoding.ofJson? (value : Value) : Option Decoding := do
  let fields ← value.record? fieldNames
  let tick ← Value.required? Value.int32? fields "tick"
  let price ← Value.required? Value.float? fields "price"
  let encodedPrice ← Value.required? Value.float? fields "encoded_price"
  let relativeError ← Value.required? Value.float? fields "relative_error"
  let precisionLoss ← Value.required? Value.bool? fields "precision_loss"
  some ⟨tick, price, encodedPrice, relativeError, precisionLoss⟩

def Decoding.toJson (d : Decoding) : String :=
  writeRecord [
    ("tick", toString d.tick),
    ("price", writeFloat d.price),
    ("encoded_price", writeFloat d.encodedPrice),
    ("relative_error", writeFloat d.relativeError),
    ("precision_loss", writeBool d.precisionLoss)]

def Settings.fieldNames : List String :=
  ["decade_width", "min_tick", "max_tick", "out_of_range", "precision_tolerance"]

/-- The settings of a JSON value; a field left out is that of the standard settings. -/
def Settings.ofJson? (value : Value) : Option Settings := do
  let fields ← value.record? fieldNames
  let decadeWidth ← Value.optional? Value.int32? fields "decade_width" standard.decadeWidth
  let minTick ← Value.optional? Value.int32? fields "min_tick" standard.minTick
  let maxTick ← Value.optional? Value.int32? fields "max_tick" standard.maxTick
  let outOfRange ← Value.optional? Policy.ofJson? fields "out_of_range" standard.outOfRange
  let precisionTolerance ←
    Value.optional? Value.float? fields "precision_tolerance" standard.precisionTolerance
  some ⟨decadeWidth, minTick, maxTick, outOfRange, precisionTolerance⟩

def Settings.toJson (s : Settings) : String :=
  writeRecord [
    ("decade_width", toString s.decadeWidth),
    ("min_tick", toString s.minTick),
    ("max_tick", toString s.maxTick),
    ("out_of_range", s.outOfRange.toJson),
    ("precision_tolerance", writeFloat s.precisionTolerance)]

end PriceLadder
