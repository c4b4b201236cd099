import DualBank.RequestId

/-! The record of an update that outlives a restart: how far it came, and whose it is. It is kept
under two keys, and each step is stored before anything it stands for is done. -/

namespace DualBank

inductive Stage where
  | idle
  | inProgress
  | pendingReboot
deriving DecidableEq

namespace Stage

def byte : Stage → UInt8
  | .idle => 1
  | .inProgress => 2
  | .pendingReboot => 3

def ofByte? (byte : UInt8) : Option Stage :=
  if byte = 1 then some .idle
  else if byte = 2 then some .inProgress
  else if byte = 3 then some .pendingReboot
  else none

def label : Stage → String
  | .idle => "Idle"
  | .inProgress => "InProgress"
  | .pendingReboot => "PendingReboot"

theorem ofByte?_eq_some_iff (byte : UInt8) (stage : Stage) :
    ofByte? byte = some stage ↔ byte = stage.byte := by
  constructor
  · intro found
    unfold ofByte? at found
    split at found
    · cases found
      assumption
    · split at found
      · cases found
        assumption
      · split at found
        · cases found
          assumption
        · contradiction
  · rintro rfl
    cases stage <;> rfl

end Stage

/-- The id means something only while the stage is not idle. -/
structure Record where
  stage : Stage
  id : Option RequestId
deriving DecidableEq

namespace Record

def space : String := "ota"

def stageKey : String := "state"

def idKey : String := "req_id"

-- Only the first byte counts; nothing stored and a byte that names no stage stand for idle.
def decodeStage (stored : Option Bytes) : Stage :=
  (((stored.getD []).head?).bind Stage.ofByte?).getD .idle

def decode (stage id : Option Bytes) : Record :=
  ⟨decodeStage stage, id.bind RequestId.decode?⟩

end Record

end DualBank
