import DualBank.CommandLine
import Std.Time.DateTime.Timestamp

/-! The agent on the files, the clock and the console of the host it runs on. Installations run in
the process itself, and the host decides when what was written reaches the medium. -/

namespace DualBank

structure HostState where
  started : Nat
  filter : Log.Filter
  source : Option IO.FS.Handle

abbrev HostRun := StateT HostState IO

namespace HostRun

def plainNumber (number : UInt32) : UInt32 :=
  min number (0 - number)

def systemError : IO.Error → SystemError
  | .alreadyExists _ number _ | .otherError number _ | .resourceBusy number _
  | .resourceVanished number _ | .unsupportedOperation number _ | .hardwareFault number _
  | .unsatisfiedConstraints number _ | .illegalOperation number _ | .protocolError number _
  | .timeExpired number _ | .interrupted _ number _ | .noFileOrDirectory _ number _
  | .invalidArgument _ number _ | .permissionDenied _ number _ | .resourceExhausted _ number _
  | .inappropriateType _ number _ | .noSuchThing _ number _ =>
      .numbered (plainNumber number)
  | .unexpectedEof => .other "unexpected end of file"
  | .userError text => .other text

def attempt {α : Type} (path : String) (action : IO α) : IO (Except SystemError α) := do
  if path.toList.contains '\x00' then return .error .zeroByteInPath
  else
    match ← action.toBaseIO with
    | .ok value => return .ok value
    | .error error => return .error (systemError error)

def isDirectory (path : String) : IO Bool := do
  match ← attempt path (IO.FS.realPath path) with
  | .ok place => place.isDir
  | .error _ => return false

def isThere (path : String) : IO Bool := do
  return (← attempt path (IO.FS.realPath path)).isOk

def touch (path : String) (mode : IO.FS.Mode) : IO Unit := do
  (← IO.FS.Handle.mk path mode).flush

def append (path : String) (data : Bytes) : IO Unit := do
  let file ← IO.FS.Handle.mk path .append
  file.write ⟨data.toArray⟩
  file.flush

def readFirst (path : String) (count : Nat) : IO Bytes := do
  let file ← IO.FS.Handle.mk path .read
  return (← file.read (USize.ofNat count)).toList

def elapsed : HostRun Nat := do
  return (← IO.monoNanosNow) - (← get).started

def display (record : Log.Record) : HostRun Unit := do
  let milliseconds := (← elapsed) / 1000000
  match record.line? (← get).filter (Log.elapsedText (UInt64.ofNat milliseconds)) with
  | some line => IO.eprintln line
  | none => return

def openSource (path : String) : HostRun (Except SystemError UInt64) := do
  let opened ← attempt path do
    let file ← IO.FS.Handle.mk path .read
    return (file, (← (← IO.FS.realPath path).metadata).byteSize)
  match opened with
  | .error error => return .error error
  | .ok (file, size) => do
      modify fun state => { state with source := some file }
      return .ok size

def readSource (limit : UInt64) : HostRun (Except SystemError Bytes) := do
  match (← get).source with
  | none => return .error .invalid
  | some file => attempt "" (ByteArray.toList <$> file.read limit.toUSize)

def answerSource : (call : Source.Call) → HostRun (Source.Reply call)
  | .openFile path => openSource path
  | .read limit => readSource limit
  | .elapsed => elapsed
  | .log record => display record

def answer : (call : Host.Call) → HostRun (Except UInt32 (Host.Reply call))
  | .makeDirectory path => .ok <$> attempt path.text (IO.FS.createDir path.text)
  | .isDirectory path => .ok <$> isDirectory path.text
  | .isThere path => .ok <$> isThere path.text
  | .create path => .ok <$> attempt path.text (touch path.text .write)
  | .openForAppend path => .ok <$> attempt path.text (touch path.text .readWrite)
  | .append path data => .ok <$> attempt path.text (append path.text data)
  | .sync path => .ok <$> attempt path.text (touch path.text .readWrite)
  | .syncDirectory _ => return .ok (.ok ())
  | .read path =>
      .ok <$> attempt path.text (ByteArray.toList <$> IO.FS.readBinFile path.text)
  | .readFirst path count => .ok <$> attempt path.text (readFirst path.text count)
  | .rename source target =>
      .ok <$> attempt (source.text ++ target.text) (IO.FS.rename source.text target.text)
  | .remove path => .ok <$> attempt path.text (IO.FS.removeFile path.text)
  | .source call => .ok <$> answerSource call
  | .log record => .ok <$> display record
  | .setFilter filter => .ok <$> modify fun state => { state with filter := filter }
  | .complain line => .ok <$> IO.eprintln line
  | .now => do
      return .ok (Int64.ofInt (← Std.Time.Timestamp.now).toSecondsSinceUnixEpoch.val)
  | .sleep milliseconds => .ok <$> IO.sleep (UInt32.ofNat milliseconds)
  | .startThread stackSize => return .ok (SystemError.forStack stackSize)
  | .exit code => return .error code

def perform : Host UInt32 → HostRun UInt32
  | .done code => return code
  | .ask call next => do
      match ← answer call with
      | .ok reply => perform (next reply)
      | .error code => return code

end HostRun

end DualBank

def main (arguments : List String) : IO UInt32 := do
  let state := ⟨← IO.monoNanosNow, .upTo .info, none⟩
  let program := DualBank.CommandLine.run arguments (← IO.getEnv "OTA_LOG")
  return (← (DualBank.HostRun.perform program).run state).1
