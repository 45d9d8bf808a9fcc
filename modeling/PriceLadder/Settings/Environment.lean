import PriceLadder.Settings.Loading

set_option autoImplicit false

namespace PriceLadder.Settings

/-- The texts that variables are set to, by their names. -/
abbrev Environment := String → Option String

/-- A computation that may end with a fault and keeps a log, the latest record last. -/
abbrev Load (α : Type) := ExceptT Fault (StateM (List Event)) α

def record (event : Event) : Load Unit :=
  modify (· ++ [event])

def readTicks (text : List Char) : Except Cause Int32 :=
  (Numeral.readInt32 text).mapError .integer

def readPolicy (text : List Char) : Except Cause Policy :=
  match Policy.read? (String.ofList text) with
  | some policy => .ok policy
  | none => .error (.policy (String.ofList text))

def readTolerance (text : List Char) : Except Cause Float :=
  (Numeral.readReal text).mapError .real

/-- The value of a setting: what its variable is set to, without white space around it, or
`standard`, with a record that writes it as `text`. -/
def setting {α : Type} (env : Environment) (v : Variable) (read : List Char → Except Cause α)
    (standard : α) (text : String) : Load α :=
  match env v.name with
  | some raw =>
    match read (Text.trim raw.toList) with
    | .ok value => pure value
    | .error cause => throw (.badVariable v cause)
  | none => do
    record (.unset v text)
    pure standard

/-- Reads the variables one after the other. The first one that is set to something else than a
value of its setting ends the loading. -/
def load (env : Environment) : Load Settings := do
  let decadeWidth ← setting env .decadeWidth readTicks standard.decadeWidth
    (toString standard.decadeWidth)
  let minTick ← setting env .minTick readTicks standard.minTick (toString standard.minTick)
  let maxTick ← setting env .maxTick readTicks standard.maxTick (toString standard.maxTick)
  let outOfRange ← setting env .outOfRange readPolicy standard.outOfRange standard.outOfRange.name
  let precisionTolerance ← setting env .precisionTolerance readTolerance
    standard.precisionTolerance (Decimal.Layout.plain.render standard.precisionTolerance)
  let settings := ⟨decadeWidth, minTick, maxTick, outOfRange, precisionTolerance⟩
  record (.loadedVariables settings)
  pure settings

def ofEnvironment (env : Environment) : Except Fault Settings × List Event :=
  (load env).run.run []

end PriceLadder.Settings
