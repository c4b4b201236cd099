import DualBank.Proofs.Discretion
import DualBank.Proofs.Trial

/-! Two executions of one script, before one device, with channels that fail at different events. A
script says who goes on next; lines of the log are put out on the way, and no turn is spent on
them. -/

namespace DualBank

open Program

/-- Whoever answers on a device, but for its log and the channel that events are sent on. What is
not answered panics. That an event is sent may be noticed; what becomes of it is not. -/
structure Collaborators (σ : Type) where
  answer : (call : Device.Call) → σ → Option (Device.Reply call × σ)
  notice : Event → σ → σ

inductive Deed where
  | call (call : Agent.Call) (reply : Agent.Reply call)
  | told (event : Event)
  | answered (answer : Answer)
  | ended (outcome : Option Outcome)
  | panicked

-- A process and its device, the number of events that were sent, and all that was done, oldest
-- first.
structure World (σ : Type) where
  session : Session
  client : Option (Agent Answer)
  device : σ
  sent : Nat
  deeds : List Deed

inductive Turn (σ : Type) where
  | demand (demand : Demand)
  | client
  | thread
  /-- Somebody joins the listeners, reads an inbox or gives it up. -/
  | listen (change : Listeners → Listeners)
  /-- The process starts anew, on a device that has come to this. -/
  | restart (change : σ → σ)

inductive Reception (σ : Type) (call : Agent.Call) where
  | reply (reply : Agent.Reply call) (after : World σ)
  | panic
  | wait

namespace World

variable {σ : Type} (policy : Policy) (collaborators : Collaborators σ)
  (heard : Nat → Except Failure Unit)

def opening (device : σ) : World σ :=
  ⟨.fresh, none, device, 0, []⟩

def note (world : World σ) (deed : Deed) : World σ :=
  { world with deeds := world.deeds ++ [deed] }

def withSession (world : World σ) (session : Session) : World σ :=
  { world with session := session }

def withClient (world : World σ) (client : Option (Agent Answer)) : World σ :=
  { world with client := client }

def withDevice (world : World σ) (device : σ) : World σ :=
  { world with device := device }

def withThread (world : World σ) (thread : Option Thread) : World σ :=
  world.withSession { world.session with thread := thread }

def consult (call : Device.Call) (world : World σ) : Reception σ (.device call) :=
  match collaborators.answer call world.device with
  | none => .panic
  | some (reply, device) =>
      .reply reply ((world.withDevice device).note (.call (.device call) reply))

def send (event : Event) (world : World σ) : World σ :=
  ({ world with sent := world.sent + 1 }.withDevice
    (collaborators.notice event world.device)).note (.told event)

def receiveDevice : (call : Device.Call) → World σ → Reception σ (.device call)
  | .publish event, world => .reply (heard world.sent) (send collaborators event world)
  | .log _, world => .reply () world
  | call, world => consult collaborators call world

def share (world : World σ) (call : Shared.Call) : Reception σ (.shared call) :=
  .reply (world.session.share call).1 ((world.withSession (world.session.share call).2).note
    (.call (.shared call) (world.session.share call).1))

def join (world : World σ) : Reception σ .join :=
  match world.session.thread with
  | none => .reply .nothing (world.note (.call .join .nothing))
  | some (.ended outcome) => .reply (Session.joined outcome)
      ((world.withThread none).note (.call .join (Session.joined outcome)))
  | some (.running _) => .wait

def receive : (call : Agent.Call) → World σ → Reception σ call
  | .device call, world => receiveDevice collaborators heard call world
  | .shared call, world => world.share call
  | .join, world => world.join

def clientAfter (world : World σ) {call : Agent.Call} (next : Agent.Reply call → Agent Answer) :
    Reception σ call → World σ
  | .reply reply after => after.withClient (some (next reply))
  | .panic => (world.withClient none).note .panicked
  | .wait => world

def clientTurn (world : World σ) : Agent Answer → World σ
  | .done answer => (world.withClient none).note (.answered answer)
  | .ask call next => world.clientAfter next (receive collaborators heard call world)

def threadAfter (world : World σ) {call : Agent.Call}
    (next : Agent.Reply call → Agent (Option Outcome)) : Reception σ call → World σ
  | .reply reply after => after.withThread (some (.running (next reply)))
  | .panic => (world.withThread (some (.running Session.panicked))).note .panicked
  | .wait => world

def threadTurn (world : World σ) : Agent (Option Outcome) → World σ
  | .done outcome => (world.withThread (some (.ended outcome))).note (.ended outcome)
  | .ask call next => world.threadAfter next (receive collaborators heard call world)

def turn (world : World σ) : Turn σ → World σ
  | .demand demand =>
      match world.client with
      | none => world.withClient (some (demand.program policy))
      | some _ => world
  | .client =>
      match world.client with
      | none => world
      | some rest => clientTurn collaborators heard world rest.pastLog
  | .thread =>
      match world.session.thread with
      | some (.running rest) => threadTurn collaborators heard world rest.pastLog
      | _ => world
  | .listen change =>
      world.withSession { world.session with listeners := change world.session.listeners }
  | .restart change =>
      ((world.withSession .fresh).withClient none).withDevice (change world.device)

def run (script : List (Turn σ)) (world : World σ) : World σ :=
  script.foldl (turn policy collaborators heard) world

end World

inductive Thread.Alike : Option Thread → Option Thread → Prop
  | none : Alike none none
  | ended (outcome : Option Outcome) : Alike (some (.ended outcome)) (some (.ended outcome))
  | running {one other : Agent (Option Outcome)} : one.Alike other →
      Alike (some (.running one)) (some (.running other))

inductive Client.Alike : Option (Agent Answer) → Option (Agent Answer) → Prop
  | none : Alike none none
  | some {one other : Agent Answer} : one.Alike other → Alike (some one) (some other)

structure Session.Alike (one other : Session) : Prop where
  slot : one.slot = other.slot
  listeners : one.listeners = other.listeners
  thread : Thread.Alike one.thread other.thread

structure World.Alike {σ : Type} (one other : World σ) : Prop where
  session : one.session.Alike other.session
  client : Client.Alike one.client other.client
  device : one.device = other.device
  sent : one.sent = other.sent
  deeds : one.deeds = other.deeds

inductive Reception.Alike {σ : Type} {call : Agent.Call} :
    Reception σ call → Reception σ call → Prop
  | reply (reply : Agent.Reply call) {one other : World σ} : one.Alike other →
      Alike (.reply reply one) (.reply reply other)
  | panic : Alike .panic .panic
  | wait : Alike .wait .wait

section Sessions

variable {one other : Session}

theorem Session.Alike.withThread (alike : one.Alike other) {thread twin : Option Thread}
    (threads : Thread.Alike thread twin) :
    Session.Alike { one with thread := thread } { other with thread := twin } :=
  ⟨alike.slot, alike.listeners, threads⟩

theorem Session.Alike.share (alike : one.Alike other) (call : Shared.Call) :
    (one.share call).1 = (other.share call).1 ∧
      (one.share call).2.Alike (other.share call).2 := by
  obtain ⟨slot, listeners, thread⟩ := one
  obtain ⟨_, _, twin⟩ := other
  obtain ⟨rfl, rfl, threads⟩ := alike
  cases call with
  | slot operation => exact ⟨rfl, rfl, rfl, threads⟩
  | notify notification => exact ⟨rfl, rfl, rfl, threads⟩
  | launch policy request =>
      exact ⟨rfl, rfl, rfl, .running (installation_alike policy request)⟩

end Sessions

namespace World

variable {σ : Type} {policy : Policy} {collaborators : Collaborators σ}
  {heard twinHeard : Nat → Except Failure Unit} {one other : World σ}

theorem Alike.note (alike : one.Alike other) (deed : Deed) :
    (one.note deed).Alike (other.note deed) :=
  ⟨alike.session, alike.client, alike.device, alike.sent, congrArg (· ++ [deed]) alike.deeds⟩

theorem Alike.withSession (alike : one.Alike other) {session twin : Session}
    (sessions : session.Alike twin) : (one.withSession session).Alike (other.withSession twin) :=
  ⟨sessions, alike.client, alike.device, alike.sent, alike.deeds⟩

theorem Alike.withClient (alike : one.Alike other) {client twin : Option (Agent Answer)}
    (clients : Client.Alike client twin) :
    (one.withClient client).Alike (other.withClient twin) :=
  ⟨alike.session, clients, alike.device, alike.sent, alike.deeds⟩

theorem Alike.withDevice (alike : one.Alike other) (device : σ) :
    (one.withDevice device).Alike (other.withDevice device) :=
  ⟨alike.session, alike.client, rfl, alike.sent, alike.deeds⟩

theorem Alike.withThread (alike : one.Alike other) {thread twin : Option Thread}
    (threads : Thread.Alike thread twin) :
    (one.withThread thread).Alike (other.withThread twin) :=
  alike.withSession (alike.session.withThread threads)

theorem consult_alike (alike : one.Alike other) (call : Device.Call) :
    (consult collaborators call one).Alike (consult collaborators call other) := by
  unfold consult
  rw [alike.device]
  cases collaborators.answer call other.device with
  | none => exact .panic
  | some answered => exact .reply _ ((alike.withDevice answered.2).note _)

theorem join_alike (alike : one.Alike other) : one.join.Alike other.join := by
  have threads := alike.session.thread
  unfold join
  generalize one.session.thread = thread at threads
  generalize other.session.thread = twin at threads
  cases threads with
  | none => exact .reply _ (alike.note _)
  | ended outcome => exact .reply _ ((alike.withThread .none).note _)
  | running _ => exact .wait

theorem share_alike (alike : one.Alike other) (call : Shared.Call) :
    (one.share call).Alike (other.share call) := by
  obtain ⟨same, sessions⟩ := alike.session.share call
  unfold World.share
  rw [same]
  exact .reply _ ((alike.withSession sessions).note _)

/-- Everything but an announcement is received alike, however announcements are. -/
theorem receive_alike (alike : one.Alike other) {call : Agent.Call} (mute : call.Mute) :
    (receive collaborators heard call one).Alike (receive collaborators twinHeard call other) := by
  cases call with
  | device call =>
      cases call with
      | publish event => exact mute.elim
      | log record => exact .reply _ alike
      | _ => exact consult_alike alike _
  | shared call => exact share_alike alike call
  | join => exact join_alike alike

theorem send_alike (alike : one.Alike other) (event : Event) :
    (send collaborators event one).Alike (send collaborators event other) := by
  have counted : Alike { one with sent := one.sent + 1 } { other with sent := other.sent + 1 } :=
    ⟨alike.session, alike.client, alike.device, congrArg (· + 1) alike.sent, alike.deeds⟩
  unfold send
  rw [alike.device]
  exact (counted.withDevice _).note _

theorem clientAfter_alike (alike : one.Alike other) {call : Agent.Call}
    {next onward : Agent.Reply call → Agent Answer}
    (alikes : ∀ reply, (next reply).Alike (onward reply)) {reception twin : Reception σ call}
    (received : reception.Alike twin) :
    (one.clientAfter next reception).Alike (other.clientAfter onward twin) := by
  cases received with
  | reply reply after => exact after.withClient (.some (alikes reply))
  | panic => exact (alike.withClient .none).note _
  | wait => exact alike

theorem clientTurn_alike (alike : one.Alike other) {rest twin : Agent Answer}
    (abreast : rest.Abreast twin) :
    (clientTurn collaborators heard one rest).Alike
      (clientTurn collaborators twinHeard other twin) := by
  cases abreast with
  | done answer => exact (alike.withClient .none).note _
  | call mute alikes => exact clientAfter_alike alike alikes (receive_alike alike mute)
  | told alikes => exact (send_alike alike _).withClient (.some (alikes _ _))

theorem threadAfter_alike (alike : one.Alike other) {call : Agent.Call}
    {next onward : Agent.Reply call → Agent (Option Outcome)}
    (alikes : ∀ reply, (next reply).Alike (onward reply)) {reception twin : Reception σ call}
    (received : reception.Alike twin) :
    (one.threadAfter next reception).Alike (other.threadAfter onward twin) := by
  cases received with
  | reply reply after => exact after.withThread (.running (alikes reply))
  | panic => exact (alike.withThread (.running panicked_alike)).note _
  | wait => exact alike

theorem threadTurn_alike (alike : one.Alike other) {rest twin : Agent (Option Outcome)}
    (abreast : rest.Abreast twin) :
    (threadTurn collaborators heard one rest).Alike
      (threadTurn collaborators twinHeard other twin) := by
  cases abreast with
  | done outcome => exact (alike.withThread (.ended outcome)).note _
  | call mute alikes => exact threadAfter_alike alike alikes (receive_alike alike mute)
  | told alikes => exact (send_alike alike _).withThread (.running (alikes _ _))

/-- Whoever goes on next, goes on alike. -/
theorem turn_alike (alike : one.Alike other) (next : Turn σ) :
    (turn policy collaborators heard one next).Alike
      (turn policy collaborators twinHeard other next) := by
  unfold turn
  cases next with
  | demand demand =>
      have clients := alike.client
      dsimp only
      generalize one.client = client at clients
      generalize other.client = twin at clients
      cases clients with
      | none => exact alike.withClient (.some (demand_alike policy demand))
      | some _ => exact alike
  | client =>
      have clients := alike.client
      dsimp only
      generalize one.client = client at clients
      generalize other.client = twin at clients
      cases clients with
      | none => exact alike
      | some rests => exact clientTurn_alike alike (abreast_pastLog rests)
  | thread =>
      have threads := alike.session.thread
      dsimp only
      generalize one.session.thread = thread at threads
      generalize other.session.thread = twin at threads
      cases threads with
      | none => exact alike
      | ended _ => exact alike
      | running rests => exact threadTurn_alike alike (abreast_pastLog rests)
  | listen change =>
      exact alike.withSession
        ⟨alike.session.slot, congrArg change alike.session.listeners, alike.session.thread⟩
  | restart change =>
      dsimp only
      rw [alike.device]
      exact ((alike.withSession ⟨rfl, rfl, .none⟩).withClient .none).withDevice _

theorem run_alike (script : List (Turn σ)) (alike : one.Alike other) :
    (run policy collaborators heard script one).Alike
      (run policy collaborators twinHeard script other) := by
  induction script generalizing one other with
  | nil => exact alike
  | cons next script ih => exact ih (turn_alike alike next)

end World

/-- Telemetry has no influence. Whatever becomes of the events that are sent, the same is done, with
the same answers, and the same events are sent; and it leaves the same device, the same slot and the
same inboxes. -/
theorem telemetry_without_influence {σ : Type} (policy : Policy) (collaborators : Collaborators σ)
    (heard other : Nat → Except Failure Unit) (script : List (Turn σ)) (device : σ) :
    let one := World.run policy collaborators heard script (.opening device)
    let twin := World.run policy collaborators other script (.opening device)
    one.deeds = twin.deeds ∧ one.device = twin.device ∧
      one.session.slot = twin.session.slot ∧ one.session.listeners = twin.session.listeners := by
  have opening : (World.opening device).Alike (World.opening device) :=
    ⟨⟨rfl, rfl, .none⟩, .none, rfl, rfl, rfl⟩
  have alike : (World.run policy collaborators heard script (.opening device)).Alike
      (World.run policy collaborators other script (.opening device)) :=
    World.run_alike script opening
  exact ⟨alike.deeds, alike.device, alike.session.slot, alike.session.listeners⟩

/-- An update that restarts the device in the end tells of it six times, though nobody hears. -/
example :
    (World.run .standard ⟨fun call bench => some (Bench.answer call bench), fun _ bench => bench⟩
      (fun _ => .error (.other "down"))
      (.demand (.submit .sample) :: List.replicate 8 .client ++ List.replicate 60 .thread)
      (.opening { Bench.fresh with
        script := [.ask (.deliver ⟨[1], 1, 1, true⟩) fun _ => .done (.ok ())] })).sent = 6 := by
  decide +kernel

end DualBank
