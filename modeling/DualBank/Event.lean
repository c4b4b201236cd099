import DualBank.Json.Fields
import DualBank.Json.Printer
import DualBank.Json.Reader
import DualBank.UpdateError

/-! What the outside hears of an update: events on the management channel, and coarse notifications
for listeners on the device. -/

namespace DualBank

inductive Phase where
  | acknowledged
  | downloading
  | deploying
  | deployed
  | rebooting
  | success
  | error
  | failure
deriving DecidableEq

inductive Notification where
  | init
  | success
  | failed
deriving DecidableEq

namespace Phase

def all : List Phase :=
  [.acknowledged, .downloading, .deploying, .deployed, .rebooting, .success, .error, .failure]

def number : Phase → Nat
  | .acknowledged => 0
  | .downloading => 1
  | .deploying => 2
  | .deployed => 3
  | .rebooting => 4
  | .success => 5
  | .error => 6
  | .failure => 7

def status : Phase → String
  | .acknowledged => "Acknowledged"
  | .downloading => "Downloading"
  | .deploying => "Deploying"
  | .deployed => "Deployed"
  | .rebooting => "Rebooting"
  | .success => "Success"
  | .error => "Error"
  | .failure => "Failure"

def notification? : Phase → Option Notification
  | .acknowledged => some .init
  | .success => some .success
  | .error | .failure => some .failed
  | _ => none

end Phase

structure Event where
  requestUuid : String
  status : String
  progress : Int32
  code : String
  message : String
  timestamp : Int64
deriving DecidableEq

namespace Event

def interfaceName : String := "io.edgehog.devicemanager.OTAEvent"

def path : String := "/event"

def clamp (progress : Int32) : Int32 :=
  if progress < 0 then 0 else if 100 < progress then 100 else progress

def compose (requestUuid : String) (phase : Phase) (progress : Int32) (error : Option UpdateError)
    (message : String) (timestamp : Int64) : Event where
  requestUuid := requestUuid
  status := phase.status
  progress := clamp progress
  code := (error.elim .none UpdateError.statusCode : StatusCode).text
  message := message
  timestamp := timestamp

def toJson (event : Event) : Json.Value :=
  .ofMembers [("requestUUID", .text event.requestUuid), ("status", .text event.status),
    ("statusProgress", .integer event.progress.toInt), ("statusCode", .text event.code),
    ("message", .text event.message), ("timestamp", .integer event.timestamp.toInt)]

def ofJson? (value : Json.Value) : Option Event := do
  let field ← value.fields?
    ["requestUUID", "status", "statusProgress", "statusCode", "message", "timestamp"] false
  return {
    requestUuid := ← (← field "requestUUID").text?
    status := ← (← field "status").text?
    progress := ← (← field "statusProgress").int32?
    code := ← (← field "statusCode").text?
    message := ← (← field "message").text?
    timestamp := ← (← field "timestamp").int64? }

end Event

end DualBank
