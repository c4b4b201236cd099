import DualBank.Bank
import DualBank.Host

/-! Writing into the file of a bank. -/

namespace DualBank

/-- A writer that appends to a bank. Short pieces are collected before they go to the file;
`written` counts all that was taken. -/
structure BankWriter where
  path : Path
  buffered : Bytes
  written : UInt64

namespace BankWriter

def capacity : Nat := 8192

def room (writer : BankWriter) : Nat :=
  capacity - writer.buffered.length

def flush (writer : BankWriter) : Host (Except SystemError Unit × BankWriter) := do
  if writer.buffered = [] then pure (.ok (), writer)
  else
    match ← Host.request (.append writer.path writer.buffered) with
    | .error error => pure (.error error, writer)
    | .ok () => pure (.ok (), { writer with buffered := [] })

def overflow (writer : BankWriter) (data : Bytes) :
    Host (Except SystemError Unit × BankWriter) := do
  let (flushed, writer) ← if writer.room < data.length then writer.flush else pure (.ok (), writer)
  match flushed with
  | .error error => pure (.error error, writer)
  | .ok () => do
      if capacity ≤ data.length then do
        let appended ← Host.request (.append writer.path data)
        pure (appended, writer)
      else pure (.ok (), { writer with buffered := writer.buffered ++ data })

def take (writer : BankWriter) (data : Bytes) : Host (Except SystemError Unit × BankWriter) :=
  if data.length < writer.room then
    pure (.ok (), { writer with buffered := writer.buffered ++ data })
  else writer.overflow data

def write (writer : BankWriter) (data : Bytes) (last : Bool) :
    Host (Except FlashError UInt64 × BankWriter) := do
  let (taken, writer) ← writer.take data
  match taken with
  | .error error => pure (.error (.ofSystem error), writer)
  | .ok () =>
      let writer := { writer with written := writer.written + UInt64.ofNat data.length }
      if last then do
        let (flushed, writer) ← writer.flush
        match flushed with
        | .error error => pure (.error (.ofSystem error), writer)
        | .ok () =>
            match ← Host.request (.sync writer.path) with
            | .error error => pure (.error (.ofSystem error), writer)
            | .ok () => pure (.ok writer.written, writer)
      else pure (.ok writer.written, writer)

def close (writer : BankWriter) : Host Unit := do
  discard writer.flush

end BankWriter

end DualBank
