import DualBank.SystemError

/-! The two banks of flash, and what the bootloader tells about them. -/

namespace DualBank

-- The primary bank holds the image that runs; updates go to the secondary one.
inductive Bank where
  | primary
  | secondary
deriving DecidableEq

inductive SwapType where
  | none
  | test
  | perm
  | revert
  | fail
  | unknown
deriving DecidableEq

namespace SwapType

def all : List SwapType :=
  [.none, .test, .perm, .revert, .fail, .unknown]

def name : SwapType → String
  | .none => "none"
  | .test => "test"
  | .perm => "perm"
  | .revert => "revert"
  | .fail => "fail"
  | .unknown => "unknown"

end SwapType

structure FlashError where
  code : Int32
deriving DecidableEq

namespace FlashError

def inputOutput : FlashError := ⟨-5⟩

def invalid : FlashError := ⟨-22⟩

def message (error : FlashError) : String :=
  "flash error " ++ toString error.code.toInt

def ofSystem (error : SystemError) : FlashError :=
  match error.number? with
  | some number => ⟨-(Int32.ofNat number.toNat)⟩
  | none => .inputOutput

end FlashError

end DualBank
