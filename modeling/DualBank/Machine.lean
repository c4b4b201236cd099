import DualBank.FileTree
import DualBank.Host

/-! A host in memory: files, a clock that stands still unless somebody looks at it or sleeps, and
everything that was shown on the console. -/

namespace DualBank

inductive Shown where
  | record (record : Log.Record)
  | plain (line : String)
deriving DecidableEq

structure Machine where
  files : FileTree
  source : Option (Location × Nat)
  nanoseconds : Nat
  filter : Log.Filter
  console : List Shown

inductive Ended (α : Type) where
  | finished (value : α)
  | exited (code : UInt32)

namespace Machine

def holding (files : FileTree) : Machine where
  files := files
  source := none
  nanoseconds := 0
  filter := .upTo .info
  console := []

def directorySize : UInt64 := 4096

def change (machine : Machine) :
    Except SystemError FileTree → Except SystemError Unit × Machine
  | .ok files => (.ok (), { machine with files := files })
  | .error error => (.error error, machine)

def display (machine : Machine) (record : Log.Record) : Machine :=
  if machine.filter.admits record.level then
    { machine with console := machine.console ++ [.record record] }
  else machine

def openSource (machine : Machine) (path : Path) : Except SystemError UInt64 × Machine :=
  match machine.files.find path with
  | .error error => (.error error, machine)
  | .ok (location, .directory) => (.ok directorySize, { machine with source := some (location, 0) })
  | .ok (location, .file content) =>
      (.ok (UInt64.ofNat content.length), { machine with source := some (location, 0) })

def readSource (machine : Machine) (limit : UInt64) : Except SystemError Bytes × Machine :=
  match machine.source with
  | none => (.error .invalid, machine)
  | some (location, place) =>
      match machine.files.node? location with
      | some (.file content) =>
          let data := (content.drop place).take limit.toNat
          (.ok data, { machine with source := some (location, place + data.length) })
      | some .directory => (.error .isADirectory, machine)
      | none => (.ok [], machine)

def answerSource : (call : Source.Call) → Machine → Source.Reply call × Machine
  | .openFile path, machine => machine.openSource (.ofText path)
  | .read limit, machine => machine.readSource limit
  | .elapsed, machine =>
      (machine.nanoseconds + 1, { machine with nanoseconds := machine.nanoseconds + 1 })
  | .log record, machine => ((), machine.display record)

def answer : (call : Host.Call) → Machine → Except UInt32 (Host.Reply call) × Machine
  | .makeDirectory path, machine => replied (machine.change (machine.files.makeDirectory path))
  | .isDirectory path, machine => replied (machine.files.isDirectory path, machine)
  | .isThere path, machine => replied (machine.files.isThere path, machine)
  | .create path, machine => replied (machine.change (machine.files.create path))
  | .openForAppend path, machine => replied ((machine.files.read path).map fun _ => (), machine)
  | .append path data, machine => replied (machine.change (machine.files.append path data))
  | .sync _, machine => replied (.ok (), machine)
  | .syncDirectory _, machine => replied (.ok (), machine)
  | .read path, machine => replied (machine.files.read path, machine)
  | .readFirst path count, machine =>
      replied ((machine.files.read path).map (·.take count), machine)
  | .rename source target, machine => replied (machine.change (machine.files.rename source target))
  | .remove path, machine => replied (machine.change (machine.files.remove path))
  | .source call, machine => replied (machine.answerSource call)
  | .log record, machine => replied ((), machine.display record)
  | .setFilter filter, machine => replied ((), { machine with filter := filter })
  | .complain line, machine =>
      replied ((), { machine with console := machine.console ++ [.plain line] })
  | .now, machine => replied (Int64.ofNat (machine.nanoseconds / 1000000000), machine)
  | .sleep milliseconds, machine =>
      replied ((), { machine with nanoseconds := machine.nanoseconds + 1000000 * milliseconds })
  | .startThread stackSize, machine => replied (SystemError.forStack stackSize, machine)
  | .exit code, machine => (.error code, machine)
where
  replied {α : Type} (pair : α × Machine) : Except UInt32 α × Machine :=
    (.ok pair.1, pair.2)

def run {α : Type} : Host α → Machine → Ended α × Machine
  | .done value, machine => (.finished value, machine)
  | .ask call next, machine =>
      match machine.answer call with
      | (.ok reply, machine) => run (next reply) machine
      | (.error code, machine) => (.exited code, machine)

end Machine

end DualBank
