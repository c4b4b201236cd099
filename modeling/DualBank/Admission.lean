import DualBank.Resolution

/-! The front door: requests and commands are admitted, or refused with a reason. -/

namespace DualBank.Admission

def notRunning : String := "Unable to cancel OTA update request, no OTA update running."

def recover : Agent (Except UpdateError Resolution) := do
  if ← Agent.slot .isBusy then do
    Agent.log .warn "controller" "Recovery skipped, an OTA update is already running"
    pure (.error .alreadyInProgress)
  else do
    let resolution ← Resolution.run
    pure (.ok resolution)

def submit (policy : Policy) (request : Request) : Agent (Except UpdateError Unit) := do
  match request.check with
  | .error error => do
      Agent.log .error "controller" ("Rejected OTA request: " ++ error.message)
      pure (.error error)
  | .ok () =>
      if ← Agent.slot .start then do
        discard Agent.join
        match ← Agent.device (.startThread policy.stackSize) with
        | .ok () => do
            Agent.shared (.launch policy request)
            Agent.log .info "controller" ("OTA worker started for " ++ request.uuid)
            pure (.ok ())
        | .error error => do
            Agent.log .error "controller"
              ("Unable to create OTA worker thread: " ++ error.message)
            Announcement.error request.uuid .failure .internal
            discard (Agent.slot .finish)
            pure (.error .threadCreate)
      else do
        Agent.log .warn "controller"
          ("OTA update already in progress, rejecting " ++ request.uuid)
        Announcement.error request.uuid .failure .alreadyInProgress
        pure (.error .alreadyInProgress)

def cancel (uuid : String) : Agent (Except UpdateError Unit) := do
  if ← Agent.slot .cancel then do
    Agent.log .info "controller" ("OTA cancel requested for " ++ uuid)
    pure (.ok ())
  else do
    Agent.log .warn "controller" notRunning
    Announcement.publish uuid .failure 0 (some (.invalidRequest "no OTA update running")) notRunning
    pure (.error (.invalidRequest "no OTA update running"))

def command (policy : Policy) (command : Command) : Agent (Except UpdateError Unit) := do
  match command.uuid, command.operation with
  | some uuid, some operation =>
      match Operation.ofText? operation with
      | some .update => submit policy ⟨uuid, command.url.getD ""⟩
      | some .cancel => cancel uuid
      | none => do
          Agent.log .error "controller" ("Unknown OTA operation " ++ Text.quoted operation)
          Announcement.error uuid .failure (.invalidRequest "unknown operation")
          pure (.error (.invalidRequest "unknown operation"))
  | _, _ => do
      Agent.log .error "controller" "Unable to extract data from the OTA request"
      pure (.error (.invalidRequest "unable to extract data from request"))

def payload (policy : Policy) (payload : Bytes) : Agent (Except UpdateError Unit) := do
  match (Json.parse? payload).bind Command.ofJson? with
  | some parsed => command policy parsed
  | none => do
      Agent.log .error "controller" "Malformed OTA request: not a command"
      pure (.error (.invalidRequest "malformed request"))

def wait : Agent (Option Outcome) := do
  match ← Agent.join with
  | .nothing => pure none
  | .ended outcome => pure (some outcome)
  | .panicked => do
      Agent.log .error "controller" "OTA worker thread panicked"
      pure none

end DualBank.Admission
