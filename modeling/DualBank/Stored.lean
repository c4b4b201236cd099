import DualBank.Bytes
import DualBank.Failure
import DualBank.Json.Printer
import DualBank.Json.Reader

/-! Values that are kept in settings, under a key in a space of its own. -/

namespace DualBank.Stored

def decode {α : Type} (ofJson? : Json.Value → Option α) (space key : String) :
    Option Bytes → Except Failure (Option α)
  | none => .ok none
  | some bytes =>
      match (Json.parse? bytes).bind ofJson? with
      | some value => .ok (some value)
      | none => .error (.undecodable (space ++ "/" ++ key))

end DualBank.Stored
