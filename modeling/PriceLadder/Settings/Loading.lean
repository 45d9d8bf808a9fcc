import PriceLadder.Decimal.Layout
import PriceLadder.Numeral.Integer
import PriceLadder.Numeral.Real
import PriceLadder.Settings.Basic

set_option autoImplicit false

namespace PriceLadder.Settings

/-- The variables that settings are read from, in the order of the settings' fields. -/
inductive Variable where
  | decadeWidth
  | minTick
  | maxTick
  | outOfRange
  | precisionTolerance
deriving DecidableEq, Repr

def Variable.name : Variable → String
  | .decadeWidth => "TICK_DECADE_WIDTH"
  | .minTick => "TICK_MIN"
  | .maxTick => "TICK_MAX"
  | .outOfRange => "TICK_OUT_OF_RANGE"
  | .precisionTolerance => "TICK_PRECISION_TOLERANCE"

inductive Cause where
  | integer (fault : Numeral.IntegerFault)
  | real (fault : Numeral.RealFault)
  | policy (text : String)
deriving DecidableEq, Repr

def Cause.message : Cause → String
  | .integer fault => fault.message
  | .real fault => fault.message
  | .policy text => s!"Invalid out of range policy: {text}"

inductive Fault where
  | badVariable (v : Variable) (cause : Cause)
  | document
deriving DecidableEq, Repr

def Fault.message : Fault → String
  | .badVariable v cause => s!"Failed to parse {v.name}: {cause.message}"
  | .document => "Failed to parse tick curve config JSON"

inductive Level where
  | debug
  | info
deriving DecidableEq, Repr

def Level.name : Level → String
  | .debug => "DEBUG"
  | .info => "INFO"

inductive Event where
  /-- A variable is not set, so that its standard value, here as text, is used. -/
  | unset (v : Variable) (standard : String)
  | loadedVariables (settings : Settings)
  | loadedDocument (settings : Settings)
deriving DecidableEq

def Event.level : Event → Level
  | .unset .. => .debug
  | .loadedVariables _ => .info
  | .loadedDocument _ => .info

/-- The form of a tolerance in the record of a document: with a point or an exponent, and without
an exponent from `10 ^ -4` up to and not including `10 ^ 16`. -/
def toleranceLayout : Decimal.Layout where
  tie := .up
  positional leading := -4 ≤ leading && leading < 16
  wholeMark := true
  plusMark := false

def Event.message : Event → String
  | .unset v standard => s!"{v.name} not set, using {standard}"
  | .loadedVariables s =>
    s!"Loaded tick curve config: decade_width={s.decadeWidth}, " ++
      s!"ticks=[{s.minTick}, {s.maxTick}], out_of_range={s.outOfRange.title}"
  | .loadedDocument s =>
    let tolerance := toleranceLayout.render s.precisionTolerance
    s!"Loaded tick curve config from JSON: CurveConfig \x7b decade_width: {s.decadeWidth}, " ++
      s!"min_tick: {s.minTick}, max_tick: {s.maxTick}, out_of_range: {s.outOfRange.title}, " ++
      s!"precision_tolerance: {tolerance} \x7d"

end PriceLadder.Settings
