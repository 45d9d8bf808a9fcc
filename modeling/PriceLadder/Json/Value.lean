import PriceLadder.Json.Token

set_option autoImplicit false

namespace PriceLadder.Json

/-- A value. A string or a name has no text if its escapes leave half of a surrogate pair alone. The
members of an object stay in their order, with repeated names. -/
inductive Value where
  | null
  | bool (value : Bool)
  | number (value : Number)
  | string (text : Option String)
  | array (items : List Value)
  | object (members : List (Option String × Value))

namespace Value

abbrev Fewer (tokens : List Token) : Type :=
  { rest : List Token // rest.length < tokens.length }

def Fewer.behind {tokens : List Token} (front : Token) (rest : Fewer tokens) :
    Fewer (front :: tokens) :=
  ⟨rest.1, Nat.lt_succ_of_lt rest.2⟩

def Fewer.tail (front : Token) (rest : List Token) : Fewer (front :: rest) :=
  ⟨rest, Nat.lt_succ_self _⟩

/-- What is read from the front of some tokens, and the tokens behind it. -/
abbrev Read (α : Type) (tokens : List Token) : Type :=
  Option (α × Fewer tokens)

mutual

def readValue (tokens : List Token) : Read Value tokens :=
  match tokens with
  | .null :: rest => some (.null, .tail _ rest)
  | .bool value :: rest => some (.bool value, .tail _ rest)
  | .number value :: rest => some (.number value, .tail _ rest)
  | .string text :: rest => some (.string text, .tail _ rest)
  | .openBracket :: .closeBracket :: rest => some (.array [], (Fewer.tail _ rest).behind _)
  | .openBrace :: .closeBrace :: rest => some (.object [], (Fewer.tail _ rest).behind _)
  | .openBracket :: rest =>
    match readItems rest with
    | some (items, rest) => some (.array items, rest.behind _)
    | none => none
  | .openBrace :: rest =>
    match readMembers rest with
    | some (members, rest) => some (.object members, rest.behind _)
    | none => none
  | _ => none
termination_by 2 * tokens.length

def readItems (tokens : List Token) : Read (List Value) tokens :=
  match readValue tokens with
  | some (item, ⟨.closeBracket :: rest, shorter⟩) =>
    some ([item], ⟨rest, Nat.lt_of_succ_lt shorter⟩)
  | some (item, ⟨.comma :: rest, shorter⟩) =>
    have fewer : rest.length < tokens.length := Nat.lt_of_succ_lt shorter
    match readItems rest with
    | some (items, ⟨rest, shorter⟩) => some (item :: items, ⟨rest, Nat.lt_trans shorter fewer⟩)
    | none => none
  | _ => none
termination_by 2 * tokens.length + 1

def readMembers (tokens : List Token) : Read (List (Option String × Value)) tokens :=
  match tokens with
  | .string name :: .colon :: values =>
    match readValue values with
    | some (value, ⟨.closeBrace :: rest, shorter⟩) =>
      let rest : Fewer values := ⟨rest, Nat.lt_of_succ_lt shorter⟩
      some ([(name, value)], (rest.behind _).behind _)
    | some (value, ⟨.comma :: rest, shorter⟩) =>
      have fewer : rest.length < values.length := Nat.lt_of_succ_lt shorter
      match readMembers rest with
      | some (members, ⟨rest, shorter⟩) =>
        let rest : Fewer values := ⟨rest, Nat.lt_trans shorter fewer⟩
        some ((name, value) :: members, (rest.behind _).behind _)
      | none => none
    | _ => none
  | _ => none
termination_by 2 * tokens.length + 1

end

/-- The value that a text writes; nothing but white space may be around it. -/
def ofText? (text : String) : Option Value :=
  match Token.ofChars? text.toList with
  | none => none
  | some tokens =>
    match readValue tokens with
    | some (value, ⟨[], _⟩) => some value
    | _ => none

end Value

end PriceLadder.Json
