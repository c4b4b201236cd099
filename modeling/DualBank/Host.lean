import DualBank.Download
import DualBank.Path

/-! What the agent asks of a host with files, when it keeps its settings and banks there. -/

namespace DualBank

namespace Host

inductive Call where
  | makeDirectory (path : Path)
  | isDirectory (path : Path)
  | isThere (path : Path)
  /-- Leaves an empty file, whether there was one before or not. -/
  | create (path : Path)
  | openForAppend (path : Path)
  | append (path : Path) (data : Bytes)
  | sync (path : Path)
  /-- A directory that cannot be opened counts as synced. -/
  | syncDirectory (path : Path)
  | read (path : Path)
  | readFirst (path : Path) (count : Nat)
  | rename (source target : Path)
  | remove (path : Path)
  | source (call : Source.Call)
  | log (record : Log.Record)
  | setFilter (filter : Log.Filter)
  | complain (line : String)
  | now
  | sleep (milliseconds : Nat)
  | startThread (stackSize : UInt64)
  | exit (code : UInt32)

abbrev Reply : Call → Type
  | .makeDirectory _ | .create _ | .openForAppend _ | .append .. | .sync _ | .syncDirectory _
  | .rename .. | .remove _ | .startThread _ => Except SystemError Unit
  | .isDirectory _ | .isThere _ => Bool
  | .read _ | .readFirst .. => Except SystemError Bytes
  | .source call => Source.Reply call
  | .log _ | .setFilter _ | .complain _ | .sleep _ => Unit
  | .now => Int64
  | .exit _ => Empty

abbrev interface : Interface := ⟨Call, Reply⟩

end Host

abbrev Host := Program Host.interface

namespace Host

def request (call : Call) : Host (Reply call) :=
  .ask call .done

def log (level : Log.Level) (origin message : String) : Host Unit :=
  request (.log ⟨level, some origin, message⟩)

def makeAll : List Path → Host (Except SystemError Unit)
  | [] => pure (.error (.other "failed to create whole tree"))
  | path :: above => do
      if path.text = "" then pure (.ok ())
      else
        match ← request (.makeDirectory path) with
        | .ok () => pure (.ok ())
        | .error error =>
            if error.isNotFound then
              match ← makeAll above with
              | .error error => pure (.error error)
              | .ok () =>
                  match ← request (.makeDirectory path) with
                  | .ok () => pure (.ok ())
                  | .error error => do
                      if ← request (.isDirectory path) then pure (.ok ()) else pure (.error error)
            else do
              if ← request (.isDirectory path) then pure (.ok ()) else pure (.error error)

def makeDirectories (path : Path) : Host (Except SystemError Unit) :=
  makeAll path.upwards

def write (path : Path) (data : Bytes) : Host (Except SystemError Unit) := do
  match ← request (.create path) with
  | .error error => pure (.error error)
  | .ok () =>
      match ← request (.append path data) with
      | .error error => pure (.error error)
      | .ok () => request (.sync path)

end Host

end DualBank
