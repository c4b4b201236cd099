import DualBank.Announcement
import DualBank.Record.Store

/-! Settling, after a restart, the update whose record was left behind. -/

namespace DualBank

inductive Resolution where
  /-- There was nothing to settle, or the record could not be read. -/
  | nothingPending
  | confirmed (id : RequestId)
  | failed (id : RequestId) (error : UpdateError)
deriving DecidableEq

namespace Resolution

def label : Resolution → String
  | .nothingPending => "NoPendingUpdate"
  | .confirmed id => "Confirmed(" ++ Text.quoted id.text ++ ")"
  | .failed id error => "Failed(" ++ Text.quoted id.text ++ ", " ++ error.label ++ ")"

def fail (id : RequestId) (error : UpdateError) : Agent Resolution := do
  Announcement.error id.text .failure error
  pure (.failed id error)

-- Settles a record. The image is confirmed only if a restart was due, no swap is outstanding and
-- the running image still waits for its confirmation.
def resolve (record : Record) : Agent Resolution := do
  match record.id with
  | none => do
      Agent.log .info "recovery" "No OTA update request UUID found"
      pure .nothingPending
  | some id => do
      Agent.log .info "recovery"
        ("Found pending OTA request " ++ id.text ++ " in state " ++ record.stage.label)
      if record.stage = .pendingReboot then
        match ← Agent.device .swapType with
        | .none =>
            if ← Agent.device .isConfirmed then do
              Agent.log .error "recovery"
                "Running image already confirmed, the new image was not booted"
              fail id .swapFail
            else
              match ← Agent.device .confirm with
              | .error error => do
                  Agent.log .error "recovery"
                    ("Unable to mark the running image as OK: " ++ error.message)
                  fail id .internal
              | .ok () => do
                  Agent.log .info "recovery" "Marked image as OK"
                  Announcement.phase id.text .success
                  pure (.confirmed id)
        | swap => do
            Agent.log .error "recovery" ("Unable to swap the image, swap type: " ++ swap.name)
            fail id .swapFail
      else do
        Agent.log .error "recovery"
          ("OTA interrupted before the reboot, state " ++ record.stage.label)
        fail id .internal

def run : Agent Resolution := do
  let resolution ←
    match ← Record.load with
    | .ok record => resolve record
    | .error error => do
        Agent.log .error "recovery" ("Unable to load the pending OTA record: " ++ error.message)
        pure .nothingPending
  match ← Record.reset with
  | .ok () => pure ()
  | .error error =>
      Agent.log .error "recovery" ("Unable to reset the OTA record: " ++ error.message)
  pure resolution

end Resolution

end DualBank
