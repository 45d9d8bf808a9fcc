import PriceLadder.Decimal.Layout

set_option autoImplicit false

namespace PriceLadder.Json

/-- The form of doubles: shortest digits, always with a point or an exponent, and without an
exponent from `10 ^ -5` up to and not including `10 ^ 16`. -/
def floatLayout : Decimal.Layout where
  tie := .even
  positional leading := -5 ≤ leading && leading < 16
  wholeMark := true
  plusMark := true

/-- The text of a double; one that is not finite has none of its own. -/
def writeFloat (x : Float) : String :=
  if x.isFinite then floatLayout.render x else "null"

def controlEscape (c : Char) : List Char :=
  ['\\', 'u', '0', '0', (c.toNat / 16).digitChar, (c.toNat % 16).digitChar]

def stringChar (c : Char) : List Char :=
  match c with
  | '"' => ['\\', '"']
  | '\\' => ['\\', '\\']
  | '\x08' => ['\\', 'b']
  | '\x0c' => ['\\', 'f']
  | '\n' => ['\\', 'n']
  | '\r' => ['\\', 'r']
  | '\t' => ['\\', 't']
  | c => if c < ' ' then controlEscape c else [c]

def writeString (text : String) : String :=
  String.ofList ('"' :: text.toList.flatMap stringChar ++ ['"'])

def writeBool (value : Bool) : String :=
  if value then "true" else "false"

def writeRecord (fields : List (String × String)) : String :=
  let members := fields.map fun (name, value) => writeString name ++ ":" ++ value
  "\x7b" ++ ",".intercalate members ++ "\x7d"

example : writeFloat 100 = "100.0" ∧ writeFloat 1e-5 = "0.00001" := by decide +kernel
example : writeFloat 1e16 = "1e+16" ∧ writeFloat (-0.0) = "-0.0" := by decide +kernel

end PriceLadder.Json
