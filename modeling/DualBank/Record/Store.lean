import DualBank.Agent
import DualBank.Record

/-! Storing the record of an update and reading it back. -/

namespace DualBank.Record

def orFail {α : Type} (cause : SettingsError) (complaint : String) :
    Except Failure α → Agent (Except SettingsError α)
  | .ok value => pure (.ok value)
  | .error failure => do
      Agent.log .error "state" (complaint ++ ": " ++ failure.report)
      pure (.error cause)

def prepare : Agent (Except SettingsError Unit) := do
  orFail .init "Settings init failed" (← Agent.device .initSettings)

def saveStage (stage : Stage) : Agent (Except SettingsError Unit) := do
  orFail .save ("Unable to persist OTA state " ++ stage.label)
    (← Agent.device (.save space stageKey [stage.byte]))

def saveId (id : RequestId) : Agent (Except SettingsError Unit) := do
  orFail .save "Unable to persist OTA request id" (← Agent.device (.save space idKey id.encode))

def deleteId : Agent (Except SettingsError Unit) := do
  orFail .delete "Unable to delete OTA request id" (← Agent.device (.delete space idKey))

def unknownByte? (stored : Option Bytes) : Option UInt8 :=
  match stored with
  | some (byte :: _) => if (Stage.ofByte? byte).isNone then some byte else none
  | _ => none

def load : Agent (Except SettingsError Record) := do
  match ← orFail .load "Unable to read OTA state from settings"
      (← Agent.device (.load space stageKey)) with
  | .error error => pure (.error error)
  | .ok stage =>
      match ← orFail .load "Unable to read OTA request uuid from settings"
          (← Agent.device (.load space idKey)) with
      | .error error => pure (.error error)
      | .ok id => do
          match unknownByte? stage with
          | some byte =>
              Agent.log .warn "state"
                ("Unknown persisted OTA state " ++ toString byte ++ ", treating as idle")
          | none => pure ()
          pure (.ok (decode stage id))

-- Forgets the id and goes idle. The second is tried even if the first fails, and its fault is
-- the one that counts if both fail.
def reset : Agent (Except SettingsError Unit) := do
  let deleted ← deleteId
  match ← saveStage .idle with
  | .error error => pure (.error error)
  | .ok () => pure deleted

end DualBank.Record
