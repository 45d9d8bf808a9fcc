import PriceLadder.Json.Forms
import PriceLadder.Settings.Loading

set_option autoImplicit false

namespace PriceLadder.Settings

/-- The settings of a JSON document, or why there are none, and the log. -/
def ofDocument (text : String) : Except Fault Settings × List Event :=
  match (Json.Value.ofText? text).bind Settings.ofJson? with
  | some settings => (.ok settings, [.loadedDocument settings])
  | none => (.error .document, [])

end PriceLadder.Settings
