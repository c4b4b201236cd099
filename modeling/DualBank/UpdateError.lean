import DualBank.Text.Quoted

/-! Why an update is refused or fails, and the code under which the outside hears of it. -/

namespace DualBank

inductive SettingsError where
  | init
  | save
  | load
  | delete
deriving DecidableEq

inductive UpdateError where
  | invalidRequest (reason : String)
  | alreadyInProgress
  | outOfMemory
  | threadCreate
  | eraseSecondSlot
  | initFlash
  | writeFlash
  | network
  | httpRequest
  | swapFail
  | canceled
  | internal
  | settings (cause : SettingsError)
deriving DecidableEq

inductive StatusCode where
  | none
  | invalidRequest
  | updateAlreadyInProgress
  | errorNetwork
  | ioError
  | invalidBaseImage
  | systemRollback
  | canceled
  | internalError
deriving DecidableEq

namespace SettingsError

def operation : SettingsError → String
  | .init => "init"
  | .save => "save"
  | .load => "load"
  | .delete => "delete"

def message (error : SettingsError) : String :=
  "settings " ++ error.operation ++ " failed"

def label : SettingsError → String
  | .init => "Init"
  | .save => "Save"
  | .load => "Load"
  | .delete => "Delete"

end SettingsError

namespace StatusCode

def all : List StatusCode :=
  [.none, .invalidRequest, .updateAlreadyInProgress, .errorNetwork, .ioError, .invalidBaseImage,
    .systemRollback, .canceled, .internalError]

def number : StatusCode → Nat
  | .none => 0
  | .invalidRequest => 1
  | .updateAlreadyInProgress => 2
  | .errorNetwork => 3
  | .ioError => 4
  | .invalidBaseImage => 5
  | .systemRollback => 6
  | .canceled => 7
  | .internalError => 8

def text : StatusCode → String
  | .none => ""
  | .invalidRequest => "InvalidRequest"
  | .updateAlreadyInProgress => "UpdateAlreadyInProgress"
  | .errorNetwork => "ErrorNetwork"
  | .ioError => "IOError"
  | .invalidBaseImage => "InvalidBaseImage"
  | .systemRollback => "SystemRollback"
  | .canceled => "Canceled"
  | .internalError => "InternalError"

end StatusCode

namespace UpdateError

def message : UpdateError → String
  | .invalidRequest reason => "invalid OTA request: " ++ reason
  | .alreadyInProgress => "an OTA update is already in progress"
  | .outOfMemory => "out of memory"
  | .threadCreate => "unable to create the OTA worker thread"
  | .eraseSecondSlot => "failed to erase the inactive bank"
  | .initFlash => "unable to init the flash write context"
  | .writeFlash => "flash write error"
  | .network => "network error"
  | .httpRequest => "http request error"
  | .swapFail => "bank swap failed"
  | .canceled => "OTA update canceled"
  | .internal => "OTA internal error"
  | .settings cause => cause.message

def statusCode : UpdateError → StatusCode
  | .invalidRequest _ => .invalidRequest
  | .alreadyInProgress => .updateAlreadyInProgress
  | .network => .errorNetwork
  | .settings _ => .ioError
  | .canceled => .canceled
  | .outOfMemory | .threadCreate | .eraseSecondSlot | .initFlash | .writeFlash | .httpRequest
  | .swapFail | .internal => .internalError

def isRetryable : UpdateError → Bool
  | .writeFlash | .network | .httpRequest => true
  | _ => false

def label : UpdateError → String
  | .invalidRequest reason => "InvalidRequest(" ++ Text.quoted reason ++ ")"
  | .alreadyInProgress => "AlreadyInProgress"
  | .outOfMemory => "OutOfMemory"
  | .threadCreate => "ThreadCreate"
  | .eraseSecondSlot => "EraseSecondSlot"
  | .initFlash => "InitFlash"
  | .writeFlash => "WriteFlash"
  | .network => "Network"
  | .httpRequest => "HttpRequest"
  | .swapFail => "SwapFail"
  | .canceled => "Canceled"
  | .internal => "Internal"
  | .settings cause => "Settings(" ++ cause.label ++ ")"

end UpdateError

end DualBank
