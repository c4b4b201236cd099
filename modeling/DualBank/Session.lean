import DualBank.Admission
import DualBank.Installation
import DualBank.Listeners

/-! A process that runs the agent: the slot, the listeners, and the thread of the latest
installation. -/

namespace DualBank

inductive Thread where
  | running (rest : Agent (Option Outcome))
  | ended (outcome : Option Outcome)

structure Session where
  slot : Slot
  listeners : Listeners
  thread : Option Thread

namespace Session

def fresh : Session := ⟨.idle, .empty, none⟩

def installation (policy : Policy) (request : Request) : Agent (Option Outcome) :=
  (Installation.run policy request).bind fun outcome => .done (some outcome)

def panicked : Agent (Option Outcome) :=
  Installation.unwind.bind fun _ => .done none

def joined : Option Outcome → Joined
  | some outcome => .ended outcome
  | none => .panicked

def share : (call : Shared.Call) → Session → Shared.Reply call × Session
  | .slot operation, session =>
      ((session.slot.apply operation).1, { session with slot := (session.slot.apply operation).2 })
  | .notify notification, session =>
      ((), { session with listeners := session.listeners.notify notification })
  | .launch policy request, session =>
      ((), { session with thread := some (.running (installation policy request)) })

section Sequential

variable {host : Interface} {σ : Type}
  (connect : (call : Device.Call) → σ → Program host (Device.Reply call × σ))

def runThread : Agent (Option Outcome) → Session → σ → Program host (Option Outcome × Session × σ)
  | .done outcome, session, device => .done (outcome, session, device)
  | .ask (.device call) next, session, device =>
      (connect call device).bind fun (reply, device) => runThread (next reply) session device
  | .ask (.shared call) next, session, device =>
      runThread (next (session.share call).1) (session.share call).2 device
  | .ask .join next, session, device => runThread (next .nothing) session device

def run {α : Type} : Agent α → Session → σ → Program host (α × Session × σ)
  | .done value, session, device => .done (value, session, device)
  | .ask (.device call) next, session, device =>
      (connect call device).bind fun (reply, device) => run (next reply) session device
  | .ask (.shared call) next, session, device =>
      run (next (session.share call).1) (session.share call).2 device
  | .ask .join next, session, device =>
      match session.thread with
      | none => run (next .nothing) session device
      | some (.ended outcome) => run (next (joined outcome)) { session with thread := none } device
      | some (.running rest) =>
          (runThread connect rest { session with thread := none } device).bind
            fun (outcome, session, device) => run (next (joined outcome)) session device

end Sequential

end Session

end DualBank
