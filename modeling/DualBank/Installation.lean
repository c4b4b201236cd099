import DualBank.Announcement
import DualBank.Record.Store
import DualBank.Staging

/-! One installation, from its acknowledgement to the restart. Whatever goes wrong ends in a single
announcement of failure; being canceled ends in silence. -/

namespace DualBank.Installation

-- One attempt at the download. It begins with an erased bank, so nothing of an earlier attempt
-- is left in the image.
def attempt (policy : Policy) (request : Request) : Agent (Except UpdateError Unit) := do
  match ← Agent.device (.erase .secondary) with
  | .error error => do
      Agent.log .error "worker" ("Failed to erase second slot: " ++ error.message)
      pure (.error .eraseSecondSlot)
  | .ok () =>
      match ← Agent.device (.openWriter .secondary) with
      | .error error => do
          Agent.log .error "worker" ("Unable to init flash area: " ++ error.message)
          pure (.error .initFlash)
      | .ok () => do
          let (result, _) ←
            Staging.run policy.progressStep request.url policy.headers policy.downloadTimeout
              (fun percent =>
                Announcement.publish request.uuid .downloading (Int32.ofNat percent.toNat) none "")
              .zero
          Agent.device .closeWriter
          pure result

/-- Up to `remaining` attempts, the first of them with number `number`. `last` is what the attempts
before failed with. -/
def attempts (policy : Policy) (request : Request) :
    (remaining number : Nat) → (last : UpdateError) → Agent (Except UpdateError Unit)
  | 0, _, last => do
      if ← Agent.slot .isRunning then pure (.error last) else pure (.error .canceled)
  | remaining + 1, number, _ => do
      if ← Agent.slot .isRunning then do
        Announcement.phase request.uuid .downloading
        match ← attempt policy request with
        | .ok () => pure (.ok ())
        | .error error =>
            if error.isRetryable then do
              Agent.device (.sleep (policy.backoffAfter (UInt8.ofNat number)).toNat)
              Announcement.error request.uuid .error error
              Agent.log .warn "worker"
                ("! OTA FAILED, ATTEMPT #" ++ toString number ++ " ! " ++ error.message)
              attempts policy request remaining (number + 1) error
            else pure (.error error)
      else pure (.error .canceled)

def fetch (policy : Policy) (request : Request) : Agent (Except UpdateError Unit) := do
  match RequestId.ofText? request.uuid with
  | none => pure (.error (.invalidRequest "malformed request uuid"))
  | some id =>
      match ← Record.saveId id with
      | .error error => do
          Agent.log .error "worker"
            "Unable to write OTA req_uuid into settings, OTA canceled"
          pure (.error (.settings error))
      | .ok () => attempts policy request policy.maxAttempts.toNat 0 .internal

def handOver (policy : Policy) (uuid : String) : Agent (Except UpdateError Unit) := do
  match ← Agent.device (.readHeader .secondary) with
  | .error error => do
      Agent.log .error "worker" ("Failed to read secondary bank header: " ++ error.message)
      pure (.error .internal)
  | .ok header => do
      Agent.log .info "worker"
        ("Staged image " ++ header.version.text ++ " (" ++ toString header.imageSize ++ " bytes)")
      match ← Agent.device .requestTest with
      | .error error => do
          Agent.log .error "worker"
            ("Failed to mark the image in the secondary bank as pending: " ++ error.message)
          pure (.error .internal)
      | .ok () => do
          Announcement.phase uuid .deployed
          Announcement.phase uuid .rebooting
          Agent.log .info "worker"
            ("Device restart in " ++ toString policy.restartGrace ++ " seconds")
          Agent.device (.sleep (1000 * policy.restartGrace.toNat))
          Agent.log .info "worker" "Device restart now"
          Agent.device .restart
          pure (.ok ())

-- Stores that a restart is due before the bootloader hears of it.
def deploy (policy : Policy) (uuid : String) : Agent (Except UpdateError Unit) := do
  Announcement.phase uuid .deploying
  Agent.log .info "worker" "OTA PREPARE REBOOT"
  match ← Record.saveStage .pendingReboot with
  | .error error => pure (.error (.settings error))
  | .ok () => handOver policy uuid

def execute (policy : Policy) (request : Request) : Agent (Except UpdateError Unit) := do
  match ← Record.prepare with
  | .error error => pure (.error (.settings error))
  | .ok () => do
      Agent.log .info "worker" "DOWNLOAD_AND_DEPLOY"
      match ← Record.saveStage .inProgress with
      | .error error => pure (.error (.settings error))
      | .ok () =>
          match ← fetch policy request with
          | .error error => pure (.error error)
          | .ok () => deploy policy request.uuid

def conclude (outcome : Outcome) : Agent Outcome := do
  match ← Record.reset with
  | .ok () => pure ()
  | .error error => Agent.log .error "worker" ("Unable to reset the OTA record: " ++ error.message)
  discard (Agent.slot .finish)
  pure outcome

/-- A whole installation. One that restarted keeps its record and its slot, for a restart need not
be over when the call returns. -/
def run (policy : Policy) (request : Request) : Agent Outcome := do
  Announcement.phase request.uuid .acknowledged
  Agent.log .info "worker" "OTA INIT"
  match ← execute policy request with
  | .ok () => pure .rebooting
  | .error .canceled => do
      Agent.log .info "worker" "OTA canceled"
      conclude .canceled
  | .error error => do
      Agent.log .warn "worker" ("OTA FAILED: " ++ error.message)
      Announcement.error request.uuid .failure error
      conclude (.failed error)

def unwind : Agent Unit := do
  Agent.device .closeWriter
  Agent.log .error "worker" "OTA worker panicked"
  discard Record.reset
  discard (Agent.slot .finish)

end DualBank.Installation
