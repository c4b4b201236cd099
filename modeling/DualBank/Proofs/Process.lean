import DualBank.Session
import Mathlib.Logic.Relation

/-! A process in which a client demands one thing after another, while the threads that were
launched go about their installations. Between any two calls of the one any number of calls of the
others may come, and the device answers every call as it likes. -/

namespace DualBank

inductive Demand where
  | submit (request : Request)
  | cancel (uuid : String)
  | command (command : Command)
  | payload (payload : Bytes)
  | recover
  | wait

inductive Answer where
  | admission (result : Except UpdateError Unit)
  | recovery (result : Except UpdateError Resolution)
  | outcome (outcome : Option Outcome)

def Command.request? (command : Command) : Option Request :=
  match command.uuid, command.operation with
  | some uuid, some operation =>
      if Operation.ofText? operation = some .update then some ⟨uuid, command.url.getD ""⟩ else none
  | _, _ => none

namespace Demand

def program (policy : Policy) : Demand → Agent Answer
  | .submit request =>
      (Admission.submit policy request).bind fun result => .done (.admission result)
  | .cancel uuid => (Admission.cancel uuid).bind fun result => .done (.admission result)
  | .command given =>
      (Admission.command policy given).bind fun result => .done (.admission result)
  | .payload given =>
      (Admission.payload policy given).bind fun result => .done (.admission result)
  | .recover => Admission.recover.bind fun result => .done (.recovery result)
  | .wait => Admission.wait.bind fun outcome => .done (.outcome outcome)

def request? : Demand → Option Request
  | .submit request => some request
  | .command given => given.request?
  | .payload given => ((Json.parse? given).bind Command.ofJson?).bind Command.request?
  | _ => none

end Demand

/-- A demand that is being met, and what is left of it. Once it has asked the slot for something,
`met` are the installations there were then. -/
structure Client where
  demand : Demand
  rest : Agent Answer
  met : Option (List Nat)

/-- Installations are numbered in the order in which they are let in, and one exists from then until
the slot is told that it has finished. The thread of the session has the number `launched`; `strays`
are threads that still had work to do when another took their place. -/
structure Process where
  session : Session
  client : Option Client
  admitted : Nat
  launched : Nat
  existing : List Nat
  strays : List (Nat × Agent (Option Outcome))

inductive Session.Answers : (call : Agent.Call) → Session → Agent.Reply call → Session → Prop
  | device {session} (call : Device.Call) (reply : Device.Reply call) :
      Answers (.device call) session reply session
  | shared {session : Session} (call : Shared.Call) :
      Answers (.shared call) session (session.share call).1 (session.share call).2
  | nothing {session : Session} : session.thread = none → Answers .join session .nothing session
  | ended {session : Session} {outcome : Option Outcome} : session.thread = some (.ended outcome) →
      Answers .join session (joined outcome) { session with thread := none }

namespace Process

def opening : Process where
  session := .fresh
  client := none
  admitted := 0
  launched := 0
  existing := []
  strays := []

-- The thread of the session, if it has work left that nobody would wait for any more.
def lost (process : Process) : List (Nat × Agent (Option Outcome)) :=
  match process.session.thread with
  | some (.running (.ask call next)) => [(process.launched, .ask call next)]
  | _ => []

def tally (process : Process) (number : Nat) : (call : Agent.Call) → Agent.Reply call → Process
  | .shared (.slot .start), true => { process with
      admitted := process.admitted + 1
      existing := process.existing ++ [process.admitted] }
  | .shared (.slot .finish), _ => { process with existing := process.existing.erase number }
  | .shared (.launch ..), _ => { process with
      launched := number
      strays := process.strays ++ process.lost }
  | _, _ => process

def latest (process : Process) : Nat :=
  process.admitted - 1

def look (process : Process) (met : Option (List Nat)) : Agent.Call → Option (List Nat)
  | .shared (.slot _) => some (met.getD process.existing)
  | _ => met

def resume (process : Process) (session : Session) (client : Client) : Process :=
  { process with session := session, client := some client }

inductive Step (policy : Policy) : Process → Process → Prop
  | demand {process : Process} (demand : Demand) : process.client = none →
      Step policy process { process with client := some ⟨demand, demand.program policy, none⟩ }
  | answer {process : Process} {demand answer met} :
      process.client = some ⟨demand, .done answer, met⟩ →
      Step policy process { process with client := none }
  | client {process : Process} {demand call next met reply session} :
      process.client = some ⟨demand, .ask call next, met⟩ →
      process.session.Answers call reply session →
      Step policy process ((process.tally process.latest call reply).resume session
        ⟨demand, next reply, process.look met call⟩)
  | clientPanic {process : Process} {demand call next met} :
      process.client = some ⟨demand, .ask (.device call) next, met⟩ →
      Step policy process { process with client := none }
  | thread {process : Process} {call next reply session} :
      process.session.thread = some (.running (.ask call next)) →
      process.session.Answers call reply session →
      Step policy process { process.tally process.launched call reply with
        session := { session with thread := some (.running (next reply)) } }
  | threadEnd {process : Process} {outcome} :
      process.session.thread = some (.running (.done outcome)) →
      Step policy process
        { process with session := { process.session with thread := some (.ended outcome) } }
  | threadPanic {process : Process} {call next} :
      process.session.thread = some (.running (.ask (.device call) next)) →
      Step policy process
        { process with session := { process.session with
            thread := some (.running Session.panicked) } }
  | stray {process : Process} {before number call next after reply session} :
      process.strays = before ++ (number, .ask call next) :: after →
      process.session.Answers call reply session →
      Step policy process { process.tally number call reply with
        session := session
        strays := before ++ (number, next reply) :: after }

def Reachable (policy : Policy) (process : Process) : Prop :=
  Relation.ReflTransGen (Step policy) opening process

end Process

end DualBank
