/-! Errors of the operating system. -/

namespace DualBank

/-- Most carry a number; a path that holds a zero byte never gets as far as the system. -/
inductive SystemError where
  | numbered (number : UInt32)
  | zeroByteInPath
  | other (text : String)
deriving DecidableEq

namespace SystemError

def notFound : SystemError := .numbered 2
def busy : SystemError := .numbered 16
def alreadyExists : SystemError := .numbered 17
def notADirectory : SystemError := .numbered 20
def isADirectory : SystemError := .numbered 21
def invalid : SystemError := .numbered 22
def nameTooLong : SystemError := .numbered 36
def notEmpty : SystemError := .numbered 39

def description : UInt32 → String
  | 1 => "Operation not permitted"
  | 2 => "No such file or directory"
  | 5 => "Input/output error"
  | 11 => "Resource temporarily unavailable"
  | 12 => "Cannot allocate memory"
  | 13 => "Permission denied"
  | 16 => "Device or resource busy"
  | 17 => "File exists"
  | 18 => "Invalid cross-device link"
  | 20 => "Not a directory"
  | 21 => "Is a directory"
  | 22 => "Invalid argument"
  | 24 => "Too many open files"
  | 26 => "Text file busy"
  | 27 => "File too large"
  | 28 => "No space left on device"
  | 30 => "Read-only file system"
  | 36 => "File name too long"
  | 39 => "Directory not empty"
  | 40 => "Too many levels of symbolic links"
  | number => "Unknown error " ++ toString number

def number? : SystemError → Option UInt32
  | .numbered number => some number
  | .zeroByteInPath | .other _ => none

def message : SystemError → String
  | .numbered number => description number ++ " (os error " ++ toString number ++ ")"
  | .zeroByteInPath => "file name contained an unexpected NUL byte"
  | .other text => text

def isNotFound (error : SystemError) : Bool :=
  error = .notFound

def isForbidden (error : SystemError) : Bool :=
  error = .numbered 1 || error = .numbered 13

def guardSize : Nat := 4096

-- The bytes of memory that a process may count on: 32 GiB.
def memorySize : Nat := 0x800000000

def forStack (size : UInt64) : Except SystemError Unit :=
  if UInt64.size ≤ size.toNat + guardSize then .error .invalid
  else if memorySize ≤ size.toNat then .error (.numbered 11)
  else .ok ()

end SystemError

end DualBank
