import PriceLadder.Json.Value

set_option autoImplicit false

namespace PriceLadder.Json.Value

def int32? : Value → Option Int32
  | .number n => n.toInt32?
  | _ => none

def float? : Value → Option Float
  | .number n => n.toFloat?
  | _ => none

def bool? : Value → Option Bool
  | .bool value => some value
  | _ => none

def text? : Value → Option String
  | .string text => text
  | _ => none

/-- The name of a choice: a string, or an object whose only member has that name and holds
nothing. -/
def choice? : Value → Option String
  | .string text => text
  | .object [(name, .null)] => name
  | _ => none

def namedMembers? (members : List (Option String × Value)) : Option (List (String × Value)) :=
  members.mapM fun (name, value) => (·, value) <$> name

/-- The fields of a record among `names`, with their values. A record is an object, in which unknown
members are passed over and a known one may occur once, or an array of the fields in their order,
from the first one on. -/
def record? (names : List String) : Value → Option (List (String × Value))
  | .object members => do
    let known := (← namedMembers? members).filter (names.contains ·.1)
    if (known.map (·.1)).Nodup then some known else none
  | .array items => if items.length ≤ names.length then some (names.zip items) else none
  | _ => none

def required? {α : Type} (read : Value → Option α) (fields : List (String × Value))
    (name : String) : Option α :=
  (fields.lookup name).bind read

def optional? {α : Type} (read : Value → Option α) (fields : List (String × Value))
    (name : String) (default : α) : Option α :=
  match fields.lookup name with
  | some value => read value
  | none => some default

end PriceLadder.Json.Value
