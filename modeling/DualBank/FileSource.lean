import DualBank.Download

/-! Images that come from a file, in chunks of a given size. -/

namespace DualBank.FileSource

def scheme : String := "file://"

def path? (url : String) : Option String :=
  if scheme.toList.isPrefixOf url.toList then
    some (String.ofList (url.toList.drop scheme.length))
  else none

def thousandths (value : Nat) : String :=
  if value = 0 then ""
  else if value % 100 = 0 then "." ++ toString (value / 100)
  else if value % 10 = 0 then "." ++ Log.padLeft '0' 2 (toString (value / 10))
  else "." ++ Log.padLeft '0' 3 (toString value)

def spanText (milliseconds : Nat) : String :=
  if milliseconds = 0 then "0ns"
  else if milliseconds < 1000 then toString milliseconds ++ "ms"
  else toString (milliseconds / 1000) ++ thousandths (milliseconds % 1000) ++ "s"

def source (call : Source.Call) : Program Download.interface (Source.Reply call) :=
  .ask (.source call) .done

def deliver (chunk : Chunk) : Program Download.interface Verdict :=
  .ask (.deliver chunk) .done

def log (level : Log.Level) (message : String) : Program Download.interface Unit :=
  source (.log ⟨level, some "download", message⟩)

-- What is delivered from `received` on. The size is the one the file had when it was opened; the
-- stream ends when that much has come, or when the file has no more.
def stream (limit timeout : UInt64) (started size received : Nat) : Download := do
  let now ← source .elapsed
  if timeout.toNat * 1000000 < now - started then do
    log .error ("Download timed out after " ++ spanText timeout.toNat)
    pure (.error .network)
  else
    match ← source (.read limit) with
    | .error error => do
        log .error ("Read error at " ++ toString received ++ " bytes: " ++ error.message)
        pure (.error .network)
    | .ok [] =>
        if received = 0 then do
          let verdict ← deliver ⟨[], 0, UInt64.ofNat size, true⟩
          conclude verdict 0
        else pure (.ok ())
    | .ok (byte :: rest) =>
        let data := byte :: rest
        if _complete : size ≤ received + data.length then do
          let verdict ←
            deliver ⟨data, UInt64.ofNat (received + data.length), UInt64.ofNat size, true⟩
          conclude verdict (received + data.length)
        else do
          let verdict ←
            deliver ⟨data, UInt64.ofNat (received + data.length), UInt64.ofNat size, false⟩
          if verdict.result.isOk && !verdict.aborted then
            stream limit timeout started size (received + data.length)
          else conclude verdict (received + data.length)
termination_by size - received
decreasing_by
  simp only [data, List.length_cons] at _complete ⊢
  omega
where
  conclude (verdict : Verdict) (received : Nat) : Download :=
    match verdict.result with
    | .error error => pure (.error error)
    | .ok () =>
        if verdict.aborted then do
          log .debug ("Download aborted at " ++ toString received ++ " bytes")
          pure (.ok ())
        else pure (.ok ())

def ignoreHeaders : List (String × String) → Program Download.interface Unit
  | [] => pure ()
  | (name, _) :: rest => do
      log .debug ("Ignoring header " ++ name ++ " for local download")
      ignoreHeaders rest

def download (chunkSize : UInt64) (url : String) (headers : List (String × String))
    (timeout : UInt64) : Download := do
  match path? url with
  | none => do
      log .error ("Unsupported download url " ++ url)
      pure (.error .httpRequest)
  | some path => do
      ignoreHeaders headers
      match ← source (.openFile path) with
      | .error error => do
          log .error ("Unable to open " ++ path ++ ": " ++ error.message)
          pure (.error (if error.isNotFound || error.isForbidden then .httpRequest else .network))
      | .ok size => do
          let started ← source .elapsed
          stream (max chunkSize 1) timeout started size.toNat 0

end DualBank.FileSource
