import DualBank.Agent
import DualBank.Progress

/-! Staging an image: one download, written chunk by chunk into a bank that has just been erased. -/

namespace DualBank.Staging

def handle (step : UInt8) (progress : Progress) (chunk : Chunk) :
    Agent (Except UpdateError (Option UInt8) × Progress) := do
  if ← Agent.slot .isRunning then
    match ← Agent.device (.write chunk.data chunk.last) with
    | .error error => do
        Agent.log .error "pipeline" ("Flash write error: " ++ error.message)
        pure (.error .writeFlash, progress)
    | .ok written =>
        let (told, progress) :=
          { progress with written := written, total := chunk.total }.advance step
        match told with
        | none => pure (.ok none, progress)
        | some percent => do
            Agent.log .debug "pipeline"
              ("Downloading " ++ toString percent ++ "% chunk " ++ toString chunk.data.length ++
                " written " ++ toString progress.written ++ " size " ++ toString progress.total)
            pure (.ok (some percent), progress)
  else pure (.error .canceled, progress)

/-- Follows a download to its end. A chunk that is refused also asks for the end of the transfer;
whether the download heeds that is its own affair. -/
def follow (step : UInt8) (report : UInt8 → Agent Unit) :
    Download → Progress → Agent (Except UpdateError Unit × Progress)
  | .done result, progress => .done (result, progress)
  | .ask (.source call) next, progress =>
      (Agent.device (.source call)).bind fun reply => follow step report (next reply) progress
  | .ask (.deliver chunk) next, progress =>
      (handle step progress chunk).bind fun (answer, progress) =>
        match answer with
        | .error error => follow step report (next ⟨.error error, true⟩) progress
        | .ok none => follow step report (next ⟨.ok (), false⟩) progress
        | .ok (some percent) =>
            (report percent).bind fun _ => follow step report (next ⟨.ok (), false⟩) progress

-- A download that ended well has to have written as much as was announced, and something.
def finish (progress : Progress) : Agent (Except UpdateError Unit) :=
  if progress.written = 0 || progress.written ≠ progress.total then do
    Agent.log .error "pipeline"
      ("Download incomplete: written " ++ toString progress.written ++ " of " ++
        toString progress.total ++ " bytes")
    pure (.error .network)
  else pure (.ok ())

-- One download from its request to its judgement. That the installation has to end outweighs
-- whatever the download says of itself.
def run (step : UInt8) (url : String) (headers : List (String × String)) (timeout : UInt64)
    (report : UInt8 → Agent Unit) (progress : Progress) :
    Agent (Except UpdateError Unit × Progress) := do
  let (result, progress) ←
    follow step report (← Agent.device (.download url headers timeout)) progress
  if ← Agent.slot .isRunning then
    match result with
    | .error error => pure (.error error, progress)
    | .ok () => do
        let result ← finish progress
        pure (result, progress)
  else do
    Agent.log .debug "pipeline" "OTA canceled"
    pure (.error .canceled, progress)

end DualBank.Staging
