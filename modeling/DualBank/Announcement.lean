import DualBank.Agent

/-! Announcing events. A fault of the channel is logged and has no other effect. -/

namespace DualBank.Announcement

def notify (phase : Phase) : Agent Unit :=
  match phase.notification? with
  | some notification => Agent.shared (.notify notification)
  | none => pure ()

def send (event : Event) : Agent Unit := do
  match ← Agent.device (.publish event) with
  | .ok () => pure ()
  | .error failure =>
      Agent.log .error "events"
        ("Unable to send ota_event " ++ event.status ++ ": " ++ failure.report)

-- Tells the listeners first, and then the management channel.
def publish (uuid : String) (phase : Phase) (progress : Int32) (error : Option UpdateError)
    (message : String) : Agent Unit := do
  let event := Event.compose uuid phase progress error message (← Agent.device .now)
  notify phase
  send event

def phase (uuid : String) (phase : Phase) : Agent Unit :=
  publish uuid phase 0 none ""

def error (uuid : String) (phase : Phase) (error : UpdateError) : Agent Unit :=
  publish uuid phase 0 (some error) ""

end DualBank.Announcement
