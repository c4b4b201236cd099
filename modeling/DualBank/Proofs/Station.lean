import DualBank.Proofs.Recording
import DualBank.Proofs.Scene
import DualBank.Proofs.SingleFlight

/-! A process together with the settings of its device, and what a client may still ask for while
its demand is met: which calls store something, who waits for a thread, and whose installation is
launched. -/

namespace DualBank

open Program Agent.Call

namespace Agent.Call

def Affects : (call : Agent.Call) → (before : SettingsTable) → Agent.Reply call →
    (after : SettingsTable) → Prop
  | .device call, before, reply, after => call.Answered before reply after
  | _, before, _, after => after = before

def heard : (call : Agent.Call) → Agent.Reply call → List Happening → List Happening
  | .shared (.slot .cancel), accepted, history => history ++ [.cancel accepted]
  | .shared (.launch ..), _, _ => []
  | _, _, history => history

def launches : Agent.Call → Option Request → Option Request
  | .shared (.launch _ request), _ => some request
  | _, request => request

def Proper (call : Agent.Call) : Prop :=
  (call.Stores → call.Clears) ∧
    ∀ policy request, call = .shared (.launch policy request) → request.check = .ok ()

end Agent.Call

/-- The request is the one that was launched last, and the history is what its thread went through
since then, or since it began to unwind. -/
structure Station where
  process : Process
  settings : SettingsTable
  request : Option Request
  history : List Happening

namespace Station

def opening (settings : SettingsTable) : Station :=
  ⟨.opening, settings, none, []⟩

def scene (station : Station) : Scene :=
  ⟨station.settings, station.process.session.slot, station.history⟩

inductive Step (policy : Policy) : Station → Station → Prop
  | demand {station : Station} (demand : Demand) : station.process.client = none →
      Step policy station { station with process := { station.process with
        client := some ⟨demand, demand.program policy, none⟩ } }
  | answer {station : Station} {demand answer met} :
      station.process.client = some ⟨demand, .done answer, met⟩ →
      Step policy station { station with process := { station.process with client := none } }
  | client {station : Station} {demand call next met reply session settings} :
      station.process.client = some ⟨demand, .ask call next, met⟩ →
      station.process.session.Answers call reply session →
      call.Affects station.settings reply settings →
      Step policy station {
        process := (station.process.tally station.process.latest call reply).resume session
          ⟨demand, next reply, station.process.look met call⟩
        settings := settings
        request := call.launches station.request
        history := call.heard reply station.history }
  | clientPanic {station : Station} {demand call next met reply settings} :
      station.process.client = some ⟨demand, .ask (.device call) next, met⟩ →
      call.Answered station.settings reply settings →
      Step policy station { station with
        process := { station.process with client := none }
        settings := settings }
  | thread {station : Station} {call next reply session settings} :
      station.process.session.thread = some (.running (.ask call next)) →
      station.process.session.Answers call reply session →
      call.Affects station.settings reply settings →
      Step policy station { station with
        process := { station.process.tally station.process.launched call reply with
          session := { session with thread := some (.running (next reply)) } }
        settings := settings
        history := station.history ++ [.exchange call reply] }
  | threadEnd {station : Station} {outcome} :
      station.process.session.thread = some (.running (.done outcome)) →
      Step policy station { station with
        process := { station.process with
          session := { station.process.session with thread := some (.ended outcome) } } }
  | threadPanic {station : Station} {call next reply settings} :
      station.process.session.thread = some (.running (.ask (.device call) next)) →
      call.Answered station.settings reply settings →
      Step policy station { station with
        process := { station.process with
          session := { station.process.session with thread := some (.running Session.panicked) } }
        settings := settings
        history := [] }
  | stray {station : Station} {before number call next after reply session settings} :
      station.process.strays = before ++ (number, .ask call next) :: after →
      station.process.session.Answers call reply session →
      call.Affects station.settings reply settings →
      Step policy station { station with
        process := { station.process.tally number call reply with
          session := session
          strays := before ++ (number, next reply) :: after }
        settings := settings }

def Leads (policy : Policy) : Station → Station → Prop :=
  Relation.ReflTransGen (Step policy)

def Reachable (policy : Policy) (station : Station) : Prop :=
  ∃ settings, Leads policy (opening settings) station

variable {policy : Policy} {before after : Station}

theorem process_step (step : Step policy before after) :
    Process.Step policy before.process after.process := by
  cases step with
  | demand demand free => exact .demand demand free
  | answer demanding => exact .answer demanding
  | client demanding answers _ => exact .client demanding answers
  | clientPanic demanding _ => exact .clientPanic demanding
  | thread running answers _ => exact .thread running answers
  | threadEnd running => exact .threadEnd running
  | threadPanic running _ => exact .threadPanic running
  | stray found answers _ => exact .stray found answers

theorem process_leads (leads : Leads policy before after) :
    Relation.ReflTransGen (Process.Step policy) before.process after.process :=
  leads.lift process fun _ _ => process_step

theorem process_reachable (reachable : before.Reachable policy) :
    before.process.Reachable policy := by
  obtain ⟨settings, leads⟩ := reachable
  exact process_leads leads

end Station

section Settings

variable {call : Agent.Call} {reply : Agent.Reply call} {before after : SettingsTable}

theorem settings_of_affects (affects : call.Affects before reply after)
    (unstored : ¬ call.Stores) : after = before := by
  cases call with
  | device call => exact Device.Call.settings_of_answered affects unstored
  | shared call => exact affects
  | join => exact affects

theorem not_stores_of_untouched (untouched : ¬ call.Touches) : ¬ call.Stores := by
  intro stores
  unfold Stores at stores
  split at stores <;> first | exact untouched trivial | exact stores

/-- An idle record stays one, whatever a client asks for. -/
theorem idle_of_proper (proper : call.Proper) (affects : call.Affects before reply after)
    (idle : before.record = ⟨.idle, none⟩) : after.record = ⟨.idle, none⟩ := by
  by_cases stores : call.Stores
  · have clears := proper.1 stores
    cases call with
    | shared call => exact stores.elim
    | join => exact stores.elim
    | device call =>
        change call.Answered before reply after at affects
        unfold Device.Call.Answered at affects
        split at affects
        · obtain ⟨rfl, rfl, rfl⟩ := clears
          rw [affects, SettingsTable.record_save_stage, idle]
        · obtain ⟨rfl, rfl⟩ := clears
          rw [affects, SettingsTable.record_delete_id, idle]
        · exact stores.elim
        · rw [affects, idle]
  · rw [settings_of_affects affects stores, idle]

end Settings

section Propriety

variable {call : Agent.Call} {policy : Policy}

theorem proper_of_apart (apart : call.Apart) (clears : call.Stores → call.Clears) :
    call.Proper := by
  refine ⟨clears, ?_⟩
  rintro policy request rfl
  exact apart.elim

theorem proper_of_tells (tells : call.Tells) : call.Proper :=
  proper_of_apart (apart_of_tells tells) fun stores =>
    absurd stores (not_stores_of_untouched (not_touches_of_tells tells))

theorem proper_of_settles (settles : call.Settles) : call.Proper :=
  proper_of_apart (apart_of_settles settles) (clears_of_settles settles)

theorem proper_slot (operation : Slot.Operation) : Proper (.shared (.slot operation)) :=
  ⟨fun impossible => impossible.elim, by simp⟩

theorem proper_log (record : Log.Record) : Proper (.device (.log record)) :=
  proper_of_tells trivial

theorem announcing_proper {uuid : String} {phases : List Phase} {program : Agent Unit}
    (always : program.Always (Announces uuid phases) fun _ => True) :
    program.Always Proper fun _ => True :=
  always_mono (announcing_tells always) (fun _ => proper_of_tells) fun _ _ => trivial

theorem submit_proper (policy : Policy) (request : Request) :
    ((Demand.submit request).program policy).Always Proper fun _ => True := by
  cases checked : request.check with
  | error error =>
      exact always_mono (submit_refuses policy checked) (fun _ => proper_of_tells)
        fun _ _ => trivial
  | ok value =>
      have joins : Proper .join := ⟨fun impossible => impossible.elim, by simp⟩
      have starts (size : UInt64) : Proper (.device (.startThread size)) :=
        ⟨fun impossible => impossible.elim, by simp⟩
      have launch : Proper (.shared (.launch policy request)) := by
        refine ⟨fun impossible => impossible.elim, ?_⟩
        rintro _ _ ⟨⟩
        exact checked
      simp only [Demand.program, Admission.submit, checked, discard_eq_bind, Agent.join, Agent.slot,
        Agent.shared, Agent.log, Agent.device, bind_eq, ask_bind, done_bind, pure_eq_done]
      refine ⟨proper_slot _, fun started => ?_⟩
      cases started with
      | false =>
          refine ⟨proper_log _, fun _ => ?_⟩
          simp only [Program.bind_assoc]
          exact always_bind (announcing_proper (error_always (.head []) _)) fun _ _ => trivial
      | true =>
          refine ⟨joins, fun _ => ⟨starts _, fun created => ?_⟩⟩
          cases created with
          | ok value => exact ⟨launch, fun _ => ⟨proper_log _, fun _ => trivial⟩⟩
          | error error =>
              refine ⟨proper_log _, fun _ => ?_⟩
              simp only [Program.bind_assoc]
              refine always_bind (announcing_proper (error_always (.head []) _)) fun _ _ => ?_
              exact ⟨proper_slot _, fun _ => trivial⟩

theorem cancel_proper (policy : Policy) (uuid : String) :
    ((Demand.cancel uuid).program policy).Always Proper fun _ => True := by
  simp only [Demand.program, Admission.cancel, Agent.slot, Agent.shared, Agent.log, Agent.device,
    bind_eq, ask_bind, done_bind, pure_eq_done]
  refine ⟨proper_slot _, fun accepted => ?_⟩
  cases accepted with
  | true => exact ⟨proper_log _, fun _ => trivial⟩
  | false =>
      refine ⟨proper_log _, fun _ => ?_⟩
      simp only [Program.bind_assoc]
      exact always_bind (announcing_proper (publish_always (.head []) ..)) fun _ _ => trivial

theorem recover_proper (policy : Policy) :
    (Demand.recover.program policy).Always Proper fun _ => True := by
  simp only [Demand.program, Admission.recover, Agent.slot, Agent.shared, Agent.log, Agent.device,
    bind_eq, ask_bind, done_bind, pure_eq_done]
  refine ⟨proper_slot _, fun busy => ?_⟩
  cases busy with
  | true => exact ⟨proper_log _, fun _ => trivial⟩
  | false =>
      have resolves : Resolution.run.Always Proper fun _ => True :=
        always_mono resolution_always (fun _ => proper_of_settles) fun _ _ => trivial
      refine always_bind ?_ fun result (_ : True) => trivial
      exact always_bind resolves fun _ _ => trivial

/-- The answer to a wait is what the thread it waited for has left. -/
theorem wait_joins (policy : Policy) :
    ∃ next, Demand.wait.program policy = .ask .join next ∧
      ∀ outcome, (next (Session.joined outcome)).Always Logs (· = .outcome outcome) := by
  simp only [Demand.program, Admission.wait, Agent.join, Agent.log, Agent.device, bind_eq, ask_bind,
    done_bind, pure_eq_done]
  refine ⟨_, rfl, fun outcome => ?_⟩
  cases outcome with
  | none => exact ⟨trivial, fun _ => rfl⟩
  | some outcome => exact rfl

theorem wait_proper (policy : Policy) :
    (Demand.wait.program policy).Always Proper fun _ => True := by
  simp only [Demand.program, Admission.wait, Agent.join, Agent.log, Agent.device, bind_eq, ask_bind,
    done_bind, pure_eq_done]
  refine ⟨⟨fun impossible => impossible.elim, by simp⟩, fun left => ?_⟩
  cases left with
  | panicked => exact ⟨proper_log _, fun _ => trivial⟩
  | _ => trivial

/-- Commands in whatever form come down to a submission, to a cancel, or to a complaint. -/
theorem demand_cases {policy : Policy} {motive : Demand → Agent Answer → Prop}
    (tells : ∀ demand, ∀ rest : Agent Answer, rest.Always Tells (fun _ => True) →
      motive demand rest)
    (submit : ∀ demand request, motive demand ((Demand.submit request).program policy))
    (cancel : ∀ demand uuid, motive demand ((Demand.cancel uuid).program policy))
    (recover : motive .recover (Demand.recover.program policy))
    (wait : motive .wait (Demand.wait.program policy)) (demand : Demand) :
    motive demand (demand.program policy) := by
  have commands (demand : Demand) (command : Command) :
      motive demand ((Demand.command command).program policy) := by
    rcases command_cases policy command with ⟨request, _, same⟩ | ⟨_, ⟨uuid, same⟩ | quiet⟩
    · exact same ▸ submit demand request
    · exact same ▸ cancel demand uuid
    · exact tells demand _ quiet
  cases demand with
  | submit request => exact submit _ request
  | cancel uuid => exact cancel _ uuid
  | recover => exact recover
  | wait => exact wait
  | command given => exact commands _ given
  | payload given =>
      rcases payload_cases policy given with ⟨_, quiet⟩ | ⟨command, _, same⟩
      · exact tells _ _ quiet
      · exact same ▸ commands _ command

theorem demand_proper (policy : Policy) (demand : Demand) :
    (demand.program policy).Always Proper fun _ => True := by
  refine demand_cases (motive := fun _ rest => rest.Always Proper fun _ => True) ?_
    (fun _ => submit_proper policy) (fun _ => cancel_proper policy) (recover_proper policy)
    (wait_proper policy) demand
  exact fun _ _ tells => always_mono tells (fun _ => proper_of_tells) fun _ _ => trivial

end Propriety

section Joining

variable {policy : Policy}

theorem submit_not_joins (request : Request) (next : Joined → Agent Answer) :
    (Demand.submit request).program policy ≠ .ask .join next := by
  intro joins
  cases checked : request.check with
  | error error =>
      have tells := submit_refuses policy checked
      rw [joins] at tells
      exact tells.1
  | ok value =>
      obtain ⟨first, asks, _⟩ := submit_looks policy checked
      cases asks.symm.trans joins

/-- Nobody waits for a thread at once but who demands to wait. -/
theorem waits_of_joins (demand : Demand) :
    ∀ next, demand.program policy = .ask .join next → demand = .wait := by
  refine demand_cases (motive := fun demand rest => ∀ next, rest = .ask .join next → demand = .wait)
    ?_ (fun _ request next joins => absurd joins (submit_not_joins request next)) nofun nofun
    (fun _ _ => rfl) demand
  rintro demand _ tells next rfl
  exact tells.1.elim

inductive Demand.Leaves (policy : Policy) : Demand → Agent Answer → Prop
  | all {demand} : Leaves policy demand (demand.program policy)
  | admitting {demand rest} : rest.Admitting ∨ (rest.Closes Tells fun _ => False) →
      Leaves policy demand rest
  | apart {demand} {rest : Agent Answer} : rest.Always Apart (fun _ => True) →
      Leaves policy demand rest

theorem leaves_tells {demand : Demand} {rest : Agent Answer}
    (tells : rest.Always Tells fun _ => True) : demand.Leaves policy rest :=
  .apart (always_mono tells (fun _ => apart_of_tells) fun _ _ => trivial)

theorem leaves_step {demand : Demand} {call : Agent.Call} {next : Agent.Reply call → Agent Answer}
    (leaves : demand.Leaves policy (.ask call next)) (reply : Agent.Reply call) :
    demand.Leaves policy (next reply) := by
  generalize same : (Program.ask call next : Agent Answer) = rest at leaves
  cases leaves with
  | all =>
      have outside := demand_outside policy demand
      rw [← same] at outside
      cases outside with
      | tells tells => exact leaves_tells (tells.2 reply)
      | start refused admitted =>
          cases reply with
          | false => exact leaves_tells refused
          | true => exact .admitting (.inl admitted)
      | cancel tells => exact leaves_tells (tells reply)
      | busy refused admitted =>
          cases reply with
          | false => exact .apart admitted
          | true => exact leaves_tells refused
      | join tells => exact leaves_tells (tells reply)
  | admitting rest =>
      subst same
      rcases rest with admitting | ⟨rfl, ends⟩ | ⟨_, onward⟩
      · cases admitting with
        | join onward => exact .admitting (.inl (onward reply))
        | start created failed =>
            cases reply with
            | ok value => exact .admitting (.inl (created value))
            | error error => exact .admitting (.inr (failed error))
        | launch tells => exact leaves_tells tells
      · obtain ⟨value, done⟩ := ends reply
        rw [done]
        exact .apart trivial
      · exact .admitting (.inr (onward reply))
  | apart apart =>
      subst same
      exact .apart (apart.2 reply)

end Joining

end DualBank
