import DualBank.Json.Fields
import DualBank.Json.Printer
import DualBank.Json.Reader

/-! What the bootloader has to remember from one start to the next, and what it can do at a
start. -/

namespace DualBank

/-- `testPending` asks for one trial of the secondary bank; `confirmed` says that the running image
is permanent. -/
structure SwapTrailer where
  testPending : Bool
  confirmed : Bool
deriving DecidableEq

namespace SwapTrailer

def settled : SwapTrailer := ⟨false, true⟩

def onTrial : SwapTrailer := ⟨false, false⟩

def toJson (trailer : SwapTrailer) : Json.Value :=
  .ofMembers [("test_pending", .boolean trailer.testPending),
    ("confirmed", .boolean trailer.confirmed)]

open Json (Value) in
def ofJson? (value : Value) : Option SwapTrailer := do
  let field ← value.fields? ["test_pending", "confirmed"] false
  return ⟨← (← field "test_pending").boolean?, ← (← field "confirmed").boolean?⟩

end SwapTrailer

inductive BootAction where
  | normal
  | testSwap
  /-- The image on trial was never confirmed, so the one before it is back. -/
  | revert
  /-- A trial was asked for, but the secondary bank holds no image. -/
  | rejected
deriving DecidableEq

namespace BootAction

def label : BootAction → String
  | .normal => "Normal"
  | .testSwap => "TestSwap"
  | .revert => "Revert"
  | .rejected => "Rejected"

def trailer : BootAction → SwapTrailer
  | .testSwap => .onTrial
  | .normal | .revert | .rejected => .settled

end BootAction

end DualBank
