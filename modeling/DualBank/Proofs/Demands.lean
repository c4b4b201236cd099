import DualBank.Proofs.Footprint
import DualBank.Proofs.Process

/-! What the two sides ask for: an installation gives the slot back with nothing left to do, and a
demand that finds the slot taken looks at it before anything else and is turned away. -/

namespace DualBank

open Program

namespace Agent.Call

def Logs : Agent.Call → Prop
  | .device (.log _) => True
  | _ => False

def Tells : Agent.Call → Prop
  | .device .now | .device (.log _) | .device (.publish _) | .shared (.notify _) => True
  | _ => False

def Apart : Agent.Call → Prop
  | .device _ | .shared (.notify _) => True
  | _ => False

def Works (call : Agent.Call) : Prop :=
  call.Apart ∨ call = .shared (.slot .isRunning)

theorem tells_of_announces {uuid : String} {phases : List Phase} {call : Agent.Call}
    (announces : call.Announces uuid phases) : call.Tells := by
  unfold Announces at announces
  split at announces <;> trivial

theorem apart_of_tells {call : Agent.Call} (tells : call.Tells) : call.Apart := by
  unfold Tells at tells
  split at tells <;> trivial

theorem works_of_fetches {uuid : String} {call : Agent.Call} (fetches : call.Fetches uuid) :
    call.Works := by
  unfold Fetches at fetches
  split at fetches <;>
    first
    | exact .inr rfl
    | exact .inl trivial
    | exact .inl (apart_of_tells (tells_of_announces fetches))

theorem works_of_handsOver {uuid : String} {call : Agent.Call} (handsOver : call.HandsOver uuid) :
    call.Works := by
  unfold HandsOver at handsOver
  split at handsOver <;>
    first
    | exact .inl trivial
    | exact .inl (apart_of_tells (tells_of_announces handsOver))

theorem apart_of_clears {call : Agent.Call} (clears : call.Clears) : call.Apart := by
  unfold Clears at clears
  split at clears <;> trivial

theorem apart_of_settles {call : Agent.Call} (settles : call.Settles) : call.Apart := by
  unfold Settles at settles
  split at settles
  · trivial
  · trivial
  · trivial
  · trivial
  · rcases settles with clears | ⟨uuid, announces⟩
    · exact apart_of_clears clears
    · exact apart_of_tells (tells_of_announces announces)

end Agent.Call

open Agent.Call

def Program.Closes {α : Type} (allowed : Agent.Call → Prop) (kept : α → Prop) : Agent α → Prop
  | .done value => kept value
  | .ask call next =>
      (call = .shared (.slot .finish) ∧ ∀ reply, ∃ value, next reply = .done value) ∨
        (allowed call ∧ ∀ reply, (next reply).Closes allowed kept)

section Closing

variable {α β : Type} {allowed : Agent.Call → Prop} {kept : β → Prop}

theorem closes_bind {post : α → Prop} {program : Agent α} {continuation : α → Agent β}
    (first : program.Always allowed post)
    (second : ∀ value, post value → (continuation value).Closes allowed kept) :
    (program.bind continuation).Closes allowed kept := by
  induction program with
  | done value => exact second value first
  | ask call next ih => exact .inr ⟨first.1, fun reply => ih reply (first.2 reply)⟩

theorem closes_ask {call : Agent.Call} {next : Agent.interface.Reply call → Agent β}
    (works : allowed call) (onward : ∀ reply, (next reply).Closes allowed kept) :
    (ask call next).Closes allowed kept :=
  .inr ⟨works, onward⟩

theorem closes_finish (value : β) :
    (ask (.shared (.slot .finish)) fun _ => .done value : Agent β).Closes allowed kept :=
  .inl ⟨rfl, fun _ => ⟨value, rfl⟩⟩

end Closing

section Installations

theorem announcing_works {uuid : String} {phases : List Phase} {program : Agent Unit}
    (always : program.Always (Announces uuid phases) fun _ => True) :
    program.Always Works fun _ => True :=
  always_mono always (fun _ announces => .inl (apart_of_tells (tells_of_announces announces)))
    fun _ _ => trivial

theorem works_of_executes {request : Request} {call : Agent.Call}
    (executes : call.Executes request) : call.Works := by
  cases executes with
  | prepare | stage | id => exact .inl trivial
  | fetch fetches => exact works_of_fetches fetches
  | deploy announces => exact .inl (apart_of_tells (tells_of_announces announces))
  | handOver handsOver => exact works_of_handsOver handsOver

theorem execute_works (policy : Policy) (request : Request) :
    (Installation.execute policy request).Always Works fun _ => True :=
  always_mono (execute_always policy request) (fun _ => works_of_executes) fun _ _ => trivial

theorem reset_works : Record.reset.Always Works fun _ => True :=
  always_mono reset_always (fun _ clears => .inl (apart_of_clears clears)) fun _ _ => trivial

theorem conclude_closes {α : Type} {kept : α → Prop} (outcome : Outcome) (value : Outcome → α) :
    ((Installation.conclude outcome).bind fun outcome => .done (value outcome)).Closes Works
      kept := by
  simp only [Installation.conclude, discard_eq_bind, Agent.slot, Agent.shared, Agent.log,
    Agent.device, bind_eq, ask_bind, done_bind, pure_eq_done, Program.bind_assoc]
  refine closes_bind reset_works ?_
  intro result _
  cases result with
  | ok _ => exact closes_finish (value outcome)
  | error error => exact closes_ask (.inl trivial) fun _ => closes_finish (value outcome)

/-- Only an installation that restarted ends with its slot taken. -/
theorem installation_closes (policy : Policy) (request : Request) :
    (Session.installation policy request).Closes Works (· = some .rebooting) := by
  simp only [Session.installation, Installation.run, Agent.log, Agent.device, bind_eq, ask_bind,
    done_bind, pure_eq_done, Program.bind_assoc]
  refine closes_bind (announcing_works (phase_always (.head []))) ?_
  intro _ _
  refine closes_ask (.inl trivial) ?_
  intro _
  refine closes_bind (execute_works policy request) ?_
  intro result _
  split
  · exact rfl
  · exact closes_ask (.inl trivial) fun _ => conclude_closes .canceled some
  · refine closes_ask (.inl trivial) ?_
    intro _
    rw [Program.bind_assoc]
    refine closes_bind (announcing_works (error_always (.head []) _)) ?_
    intro _ _
    exact conclude_closes _ some

theorem panicked_closes : Session.panicked.Closes Works (· = some .rebooting) := by
  simp only [Session.panicked, Installation.unwind, discard_eq_bind, Agent.slot, Agent.shared,
    Agent.log, Agent.device, bind_eq, ask_bind, done_bind, Program.bind_assoc]
  refine closes_ask (.inl trivial) fun _ => closes_ask (.inl trivial) ?_
  intro _
  exact closes_bind reset_works fun _ _ => closes_finish none

end Installations

section Clients

inductive Agent.Admitting : Agent Answer → Prop
  | join {next} : (∀ reply, Admitting (next reply)) → Admitting (.ask .join next)
  | start {size next} : (∀ value, Admitting (next (.ok value))) →
      (∀ error, (next (.error error)).Closes Tells fun _ => False) →
      Admitting (.ask (.device (.startThread size)) next)
  | launch {policy request next} : (next ()).Always Tells (fun _ => True) →
      Admitting (.ask (.shared (.launch policy request)) next)

inductive Agent.Outside : Agent Answer → Prop
  | tells {rest : Agent Answer} : rest.Always Tells (fun _ => True) → Outside rest
  | start {next : Bool → Agent Answer} : (next false).Always Tells (fun _ => True) →
      Agent.Admitting (next true) → Outside (.ask (.shared (.slot .start)) next)
  | cancel {next : Bool → Agent Answer} : (∀ reply, (next reply).Always Tells fun _ => True) →
      Outside (.ask (.shared (.slot .cancel)) next)
  | busy {next : Bool → Agent Answer} : (next true).Always Tells (fun _ => True) →
      (next false).Always Apart (fun _ => True) → Outside (.ask (.shared (.slot .isBusy)) next)
  | join {next} : (∀ reply, (next reply).Always Tells fun _ => True) → Outside (.ask .join next)

theorem announcing_tells {uuid : String} {phases : List Phase} {program : Agent Unit}
    (always : program.Always (Announces uuid phases) fun _ => True) :
    program.Always Tells fun _ => True :=
  always_mono always (fun _ => tells_of_announces) fun _ _ => trivial

theorem submit_looks (policy : Policy) {request : Request} (valid : request.check = .ok ()) :
    ∃ next, (Demand.submit request).program policy = .ask (.shared (.slot .start)) next ∧
      (next false).Always Tells (· = .admission (.error .alreadyInProgress)) ∧
      Agent.Admitting (next true) := by
  simp only [Demand.program, Admission.submit, valid, discard_eq_bind, Agent.join, Agent.slot,
    Agent.shared, Agent.log, Agent.device, bind_eq, ask_bind, done_bind, pure_eq_done]
  refine ⟨_, rfl, ?_, ?_⟩
  · refine ⟨trivial, fun _ => ?_⟩
    simp only [Program.bind_assoc]
    exact always_bind (announcing_tells (error_always (.head []) _)) fun _ _ => rfl
  · refine .join fun _ => .start (fun _ => ?_) fun _ => ?_
    · exact .launch ⟨trivial, fun _ => trivial⟩
    · refine closes_ask trivial ?_
      intro _
      simp only [Program.bind_assoc]
      exact closes_bind (announcing_tells (error_always (.head []) _)) fun _ _ => closes_finish _

theorem submit_refuses (policy : Policy) {request : Request} {error : UpdateError}
    (invalid : request.check = .error error) :
    ((Demand.submit request).program policy).Always Tells fun _ => True := by
  simp only [Demand.program, Admission.submit, invalid, Agent.log, Agent.device, bind_eq, ask_bind,
    done_bind, pure_eq_done]
  exact ⟨trivial, fun _ => trivial⟩

theorem resolution_apart : Resolution.run.Always Apart fun _ => True :=
  always_mono resolution_always (fun _ => apart_of_settles) fun _ _ => trivial

theorem recover_looks (policy : Policy) :
    ∃ next, Demand.recover.program policy = .ask (.shared (.slot .isBusy)) next ∧
      (next true).Always Logs (· = .recovery (.error .alreadyInProgress)) ∧
      (next false).Always Apart fun _ => True := by
  simp only [Demand.program, Admission.recover, Agent.slot, Agent.shared, Agent.log, Agent.device,
    bind_eq, ask_bind, done_bind, pure_eq_done]
  refine ⟨_, rfl, ?_, ?_⟩
  · exact ⟨trivial, fun _ => rfl⟩
  · refine always_bind ?_ fun result (_ : True) => trivial
    exact always_bind resolution_apart fun _ _ => trivial

theorem submit_outside (policy : Policy) (request : Request) :
    Agent.Outside ((Demand.submit request).program policy) := by
  cases checked : request.check with
  | error error => exact .tells (submit_refuses policy checked)
  | ok value =>
      obtain ⟨next, asks, refused, admitted⟩ := submit_looks policy checked
      rw [asks]
      exact .start (always_mono refused (fun _ tells => tells) fun _ _ => trivial) admitted

theorem cancel_outside (policy : Policy) (uuid : String) :
    Agent.Outside ((Demand.cancel uuid).program policy) := by
  simp only [Demand.program, Admission.cancel, Agent.slot, Agent.shared, Agent.log, Agent.device,
    bind_eq, ask_bind, done_bind, pure_eq_done]
  refine .cancel ?_
  intro reply
  cases reply with
  | true => exact ⟨trivial, fun _ => trivial⟩
  | false =>
      refine ⟨trivial, fun _ => ?_⟩
      simp only [Program.bind_assoc]
      exact always_bind (announcing_tells (publish_always (.head []) ..)) fun _ _ => trivial

theorem recover_outside (policy : Policy) : Agent.Outside (Demand.recover.program policy) := by
  obtain ⟨next, asks, refused, admitted⟩ := recover_looks policy
  rw [asks]
  refine .busy (always_mono refused (fun call logs => ?_) fun _ _ => trivial) admitted
  unfold Logs at logs
  split at logs <;> trivial

theorem wait_outside (policy : Policy) : Agent.Outside (Demand.wait.program policy) := by
  simp only [Demand.program, Admission.wait, Agent.join, Agent.log, Agent.device, bind_eq, ask_bind,
    done_bind, pure_eq_done]
  refine .join ?_
  intro reply
  cases reply with
  | panicked => exact ⟨trivial, fun _ => trivial⟩
  | _ => trivial

theorem command_cases (policy : Policy) (command : Command) :
    (∃ request, command.request? = some request ∧
      (Demand.command command).program policy = (Demand.submit request).program policy) ∨
    command.request? = none ∧
      ((∃ uuid, (Demand.command command).program policy = (Demand.cancel uuid).program policy) ∨
        ((Demand.command command).program policy).Always Tells fun _ => True) := by
  obtain ⟨uuid, url, operation⟩ := command
  have complains (record : Log.Record) (answer : Answer) :
      (ask (.device (.log record)) fun _ => .done answer : Agent Answer).Always Tells
        fun _ => True := ⟨trivial, fun _ => trivial⟩
  cases uuid with
  | none => exact .inr ⟨rfl, .inr (complains _ _)⟩
  | some uuid =>
      cases operation with
      | none => exact .inr ⟨rfl, .inr (complains _ _)⟩
      | some operation =>
          simp only [Command.request?, Demand.program, Admission.command]
          cases Operation.ofText? operation with
          | none =>
              refine .inr ⟨by simp, .inr ?_⟩
              simp only [Agent.log, Agent.device, bind_eq, ask_bind, done_bind, pure_eq_done,
                Program.bind_assoc]
              refine ⟨trivial, fun _ => ?_⟩
              exact always_bind (announcing_tells (error_always (.head []) _)) fun _ _ => trivial
          | some named =>
              cases named with
              | update => exact .inl ⟨_, by simp, rfl⟩
              | cancel => exact .inr ⟨by simp, .inl ⟨uuid, rfl⟩⟩

theorem payload_cases (policy : Policy) (payload : Bytes) :
    ((Json.parse? payload).bind Command.ofJson? = none ∧
      ((Demand.payload payload).program policy).Always Tells fun _ => True) ∨
    ∃ command, (Json.parse? payload).bind Command.ofJson? = some command ∧
      (Demand.payload payload).program policy = (Demand.command command).program policy := by
  simp only [Demand.program, Admission.payload]
  cases parsed : (Json.parse? payload).bind Command.ofJson? with
  | none => exact .inl ⟨rfl, trivial, fun _ => trivial⟩
  | some command => exact .inr ⟨command, rfl, rfl⟩

theorem command_outside (policy : Policy) (command : Command) :
    Agent.Outside ((Demand.command command).program policy) := by
  rcases command_cases policy command with ⟨request, _, same⟩ | ⟨_, ⟨uuid, same⟩ | tells⟩
  · exact same ▸ submit_outside policy request
  · exact same ▸ cancel_outside policy uuid
  · exact .tells tells

theorem demand_outside (policy : Policy) (demand : Demand) :
    Agent.Outside (demand.program policy) := by
  cases demand with
  | submit request => exact submit_outside policy request
  | cancel uuid => exact cancel_outside policy uuid
  | recover => exact recover_outside policy
  | wait => exact wait_outside policy
  | command given => exact command_outside policy given
  | payload given =>
      rcases payload_cases policy given with ⟨_, tells⟩ | ⟨command, _, same⟩
      · exact .tells tells
      · exact same ▸ command_outside policy command

def Demand.Looks (demand : Demand) : Prop :=
  demand = .recover ∨ ∃ request, demand.request? = some request ∧ request.check = .ok ()

def Demand.refusal : Demand → Answer
  | .recover => .recovery (.error .alreadyInProgress)
  | _ => .admission (.error .alreadyInProgress)

def Demand.Refuses : Demand → Agent.Call → Prop
  | .recover => Logs
  | _ => Tells

theorem submit_request_looks (policy : Policy) (demand : Demand) (other : demand ≠ .recover)
    {request : Request} (valid : request.check = .ok ())
    (same : demand.program policy = (Demand.submit request).program policy) :
    ∃ operation next, demand.program policy = .ask (.shared (.slot operation)) next ∧
      ∀ slot : Slot, slot ≠ .idle →
        (next (slot.apply operation).1).Always demand.Refuses (· = demand.refusal) := by
  obtain ⟨next, asks, refused, _⟩ := submit_looks policy valid
  refine ⟨.start, next, same.trans asks, fun slot taken => ?_⟩
  have answer : (slot.apply .start).1 = false := by cases slot <;> first | rfl | contradiction
  rw [answer]
  cases demand <;> first | exact refused | contradiction

/-- A demand that needs the slot asks for it at once, and is refused if it is taken. -/
theorem looks_first (policy : Policy) {demand : Demand} (looks : demand.Looks) :
    ∃ operation next, demand.program policy = .ask (.shared (.slot operation)) next ∧
      ∀ slot : Slot, slot ≠ .idle →
        (next (slot.apply operation).1).Always demand.Refuses (· = demand.refusal) := by
  rcases looks with rfl | ⟨request, submits, valid⟩
  · obtain ⟨next, asks, refused, _⟩ := recover_looks policy
    refine ⟨.isBusy, next, asks, fun slot taken => ?_⟩
    have answer : (slot.apply .isBusy).1 = true := by cases slot <;> first | rfl | contradiction
    rw [answer]
    exact refused
  · cases demand with
    | submit given =>
        obtain rfl : given = request := by simpa [Demand.request?] using submits
        exact submit_request_looks policy _ (by simp) valid rfl
    | command given =>
        rcases command_cases policy given with ⟨other, same, program⟩ | ⟨none, _⟩
        · obtain rfl : other = request := Option.some.inj (same.symm.trans submits)
          exact submit_request_looks policy _ (by simp) valid program
        · exact absurd (none.symm.trans submits) (by simp)
    | payload given =>
        rcases payload_cases policy given with ⟨none, _⟩ | ⟨command, parsed, program⟩
        · simp [Demand.request?, none] at submits
        · simp only [Demand.request?, parsed, Option.bind_some] at submits
          rcases command_cases policy command with ⟨other, same, onward⟩ | ⟨none, _⟩
          · obtain rfl : other = request := Option.some.inj (same.symm.trans submits)
            exact submit_request_looks policy _ (by simp) valid (program.trans onward)
          · exact absurd (none.symm.trans submits) (by simp)
    | _ => contradiction

end Clients

end DualBank
