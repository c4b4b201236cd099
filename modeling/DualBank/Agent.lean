import DualBank.Bank
import DualBank.Download
import DualBank.Event
import DualBank.Failure
import DualBank.Image
import DualBank.Policy
import DualBank.Request
import DualBank.Slot

/-! What an update asks of the device, and of the process it runs in. -/

namespace DualBank

inductive Outcome where
  | rebooting
  | canceled
  | failed (error : UpdateError)
deriving DecidableEq

inductive Joined where
  | nothing
  | ended (outcome : Outcome)
  | panicked
deriving DecidableEq

namespace Outcome

def label : Outcome → String
  | .rebooting => "Rebooting"
  | .canceled => "Canceled"
  | .failed error => "Failed(" ++ error.label ++ ")"

end Outcome

namespace Device

inductive Call where
  | initSettings
  | save (space key : String) (value : Bytes)
  | load (space key : String)
  | delete (space key : String)
  | erase (bank : Bank)
  | openWriter (bank : Bank)
  | write (data : Bytes) (last : Bool)
  | closeWriter
  | readHeader (bank : Bank)
  | swapType
  | isConfirmed
  | confirm
  | requestTest
  | download (url : String) (headers : List (String × String)) (timeout : UInt64)
  | source (call : Source.Call)
  | publish (event : Event)
  | now
  | sleep (milliseconds : Nat)
  | log (record : Log.Record)
  | startThread (stackSize : UInt64)
  | restart

abbrev Reply : Call → Type
  | .initSettings | .save .. | .delete .. | .publish _ => Except Failure Unit
  | .load .. => Except Failure (Option Bytes)
  | .erase _ | .openWriter _ | .confirm | .requestTest => Except FlashError Unit
  | .write .. => Except FlashError UInt64
  | .readHeader _ => Except FlashError Image.Header
  | .swapType => SwapType
  | .isConfirmed => Bool
  | .download .. => Download
  | .source call => Source.Reply call
  | .now => Int64
  | .startThread _ => Except SystemError Unit
  | .closeWriter | .sleep _ | .log _ | .restart => Unit

end Device

namespace Shared

inductive Call where
  | slot (operation : Slot.Operation)
  | notify (notification : Notification)
  | launch (policy : Policy) (request : Request)

abbrev Reply : Call → Type
  | .slot _ => Bool
  | .notify _ | .launch .. => Unit

end Shared

namespace Agent

/-- To join is to wait until the latest installation thread has ended, and to take what it left. -/
inductive Call where
  | device (call : Device.Call)
  | shared (call : Shared.Call)
  | join

abbrev Reply : Call → Type
  | .device call => Device.Reply call
  | .shared call => Shared.Reply call
  | .join => Joined

abbrev interface : Interface := ⟨Call, Reply⟩

end Agent

abbrev Agent := Program Agent.interface

namespace Agent

@[simp]
def device (call : Device.Call) : Agent (Device.Reply call) :=
  .ask (.device call) .done

@[simp]
def shared (call : Shared.Call) : Agent (Shared.Reply call) :=
  .ask (.shared call) .done

@[simp]
def join : Agent Joined :=
  .ask .join .done

@[simp]
def slot (operation : Slot.Operation) : Agent Bool :=
  shared (.slot operation)

@[simp]
def log (level : Log.Level) (origin message : String) : Agent Unit :=
  device (.log ⟨level, some origin, message⟩)

end Agent

end DualBank
