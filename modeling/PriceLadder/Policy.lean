import PriceLadder.Text.Blank

set_option autoImplicit false

namespace PriceLadder

/-- The answer to a tick or price outside the bounds. -/
inductive Policy where
  | reject
  | clamp
deriving DecidableEq, Repr, Inhabited

namespace Policy

def all : List Policy := [.reject, .clamp]

def name : Policy → String
  | .reject => "reject"
  | .clamp => "clamp"

/-- The name of a policy with a capital, as the log has it. -/
def title : Policy → String
  | .reject => "Reject"
  | .clamp => "Clamp"

def ofName? (name : String) : Option Policy :=
  all.find? (·.name = name)

/-- The policy that a text names, in letters of either case and with white space around it. -/
def read? (text : String) : Option Policy :=
  ofName? (String.ofList ((Text.trim text.toList).map Char.toLower))

theorem ofName?_name (p : Policy) : ofName? p.name = some p := by
  cases p <;> decide

end Policy

end PriceLadder
