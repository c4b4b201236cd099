import DualBank.Agent
import DualBank.BankDirectory
import DualBank.EventLog
import DualBank.FileSource

/-! A device whose settings and banks are files of its host. -/

namespace DualBank

structure FileDevice where
  settings : SettingsDirectory
  banks : BankDirectory
  chunkSize : UInt64
  writer : Option BankWriter
  events : EventLog

namespace FileDevice

def standardChunkSize : UInt64 := 4096

def inDirectory (root : Path) (chunkSize : UInt64) : FileDevice where
  settings := ⟨root.below "settings"⟩
  banks := ⟨root.below "banks"⟩
  chunkSize := chunkSize
  writer := none
  events := .standard

def restart : Host Unit := do
  Host.log .warn "system" "Restarting: exiting the agent process"
  let never ← Host.request (.exit 0)
  nomatch never

def unchanged {α : Type} (device : FileDevice) (answer : Host α) : Host (α × FileDevice) := do
  let reply ← answer
  pure (reply, device)

def answer : (call : Device.Call) → FileDevice → Host (Device.Reply call × FileDevice)
  | .initSettings, device => device.unchanged device.settings.init
  | .save space key value, device => device.unchanged (device.settings.save space key value)
  | .load space key, device => device.unchanged (device.settings.load space key)
  | .delete space key, device => device.unchanged (device.settings.delete space key)
  | .erase bank, device => device.unchanged (device.banks.erase bank)
  | .openWriter bank, device => do
      match ← device.banks.openWriter bank with
      | .ok writer => pure (.ok (), { device with writer := some writer })
      | .error error => pure (.error error, device)
  | .write data last, device =>
      match device.writer with
      | none => pure (.error .inputOutput, device)
      | some writer => do
          let (result, writer) ← writer.write data last
          pure (result, { device with writer := some writer })
  | .closeWriter, device =>
      match device.writer with
      | none => pure ((), device)
      | some writer => do
          writer.close
          pure ((), { device with writer := none })
  | .readHeader bank, device => device.unchanged (device.banks.readHeader bank)
  | .swapType, device => device.unchanged device.banks.swapType
  | .isConfirmed, device => device.unchanged device.banks.isConfirmed
  | .confirm, device => device.unchanged device.banks.confirm
  | .requestTest, device => device.unchanged device.banks.requestTest
  | .download url headers timeout, device =>
      pure (FileSource.download device.chunkSize url headers timeout, device)
  | .source call, device => device.unchanged (Host.request (.source call))
  | .publish event, device => do
      let events ← device.events.publish Event.interfaceName Event.path event
      pure (.ok (), { device with events := events })
  | .now, device => device.unchanged (Host.request .now)
  | .sleep milliseconds, device => device.unchanged (Host.request (.sleep milliseconds))
  | .log record, device => device.unchanged (Host.request (.log record))
  | .startThread stackSize, device => device.unchanged (Host.request (.startThread stackSize))
  | .restart, device => device.unchanged restart

end FileDevice

end DualBank
