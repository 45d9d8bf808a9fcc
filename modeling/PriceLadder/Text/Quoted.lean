import PriceLadder.Text.Unprinted

set_option autoImplicit false

namespace PriceLadder.Text

/-- The escape of a character by its number, such as `\u{7f}`. -/
def numberEscape (c : Char) : List Char :=
  '\\' :: 'u' :: '{' :: Nat.toDigits 16 c.toNat ++ ['}']

def quotedChar (c : Char) : List Char :=
  match c with
  | '"' => ['\\', '"']
  | '\\' => ['\\', '\\']
  | '\n' => ['\\', 'n']
  | '\r' => ['\\', 'r']
  | '\t' => ['\\', 't']
  | '\x00' => ['\\', '0']
  | c => if isUnprinted c then numberEscape c else [c]

/-- The text in quotes, as error messages show the text that they refuse. What would not be seen is
shown by number. -/
def quoted (text : String) : String :=
  String.ofList ('"' :: text.toList.flatMap quotedChar ++ ['"'])

example : quoted "1\t\"e\\\x7f" = "\"1\\t\\\"e\\\\\\u\x7b7f\x7d\"" := by decide +kernel

end PriceLadder.Text
