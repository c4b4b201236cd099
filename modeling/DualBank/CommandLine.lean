import DualBank.FileDevice
import DualBank.Policy.Loading
import DualBank.Session

/-! The agent as a program: it boots, settles what the last update left behind, and carries out the
command it was given. -/

namespace DualBank.CommandLine

def usage : String := "usage: ota-agent <state-dir> [command-json]"

def origin : String := "ota_agent"

def setLevel : Option String → Host Unit
  | none => pure ()
  | some name =>
      match Log.Filter.ofText? name with
      | some filter => Host.request (.setFilter filter)
      | none => Host.log .warn origin ("Ignoring unknown OTA_LOG level " ++ Text.quoted name)

def giveUp (report : String) : Host UInt32 := do
  Host.request (.complain ("Error: " ++ report))
  pure 1

def obey (policy : Policy) (command : String) : Agent Unit := do
  match ← Admission.payload policy (Bytes.ofText command) with
  | .ok () => pure ()
  | .error error => Agent.log .warn origin ("OTA command rejected: " ++ error.message)
  match ← Admission.wait with
  | none => pure ()
  | some outcome => Agent.log .info origin ("OTA worker finished: " ++ outcome.label)

def serve (policy : Policy) (command : Option String) : Agent Unit := do
  match ← Admission.recover with
  | .ok resolution => Agent.log .info origin ("Boot recovery: " ++ resolution.label)
  | .error error => Agent.log .warn origin ("Boot recovery skipped: " ++ error.message)
  match command with
  | none => Agent.log .info origin "No command given, exiting"
  | some command => obey policy command

def onDevice {α : Type} (program : Agent α) (device : FileDevice) : Host (α × FileDevice) := do
  let (value, _, device) ← Session.run FileDevice.answer program .fresh device
  pure (value, device)

def start (directory : String) (command : Option String) : Host UInt32 := do
  Host.log .info origin "=== OTA agent v0.3.0 ==="
  Host.log .info origin ("State directory: " ++ directory)
  let device := FileDevice.inDirectory (.ofText directory) FileDevice.standardChunkSize
  match ← device.settings.init with
  | .error failure => giveUp failure.report
  | .ok () => do
      let (policy, device) ← onDevice Policy.loadOrStandard device
      Host.log .info origin
        ("OTA config: " ++ toString policy.maxAttempts ++ " attempts, " ++
          toString policy.progressStep ++ "% progress step")
      match ← device.banks.boot with
      | .error failure => giveUp failure.report
      | .ok action => do
          Host.log .info origin ("Bootloader: " ++ action.label)
          let _ ← onDevice (serve policy command) device
          pure 0

def run (arguments : List String) (level : Option String) : Host UInt32 := do
  setLevel level
  match arguments with
  | [] => giveUp usage
  | directory :: rest => start directory rest.head?

end DualBank.CommandLine
