import DualBank.Installation
import DualBank.Resolution
import DualBank.Proofs.Surroundings

/-! Which calls the parts of an installation make, and settling a record, whatever is answered. -/

namespace DualBank

open Program

theorem Phase.status_injective : Function.Injective Phase.status := by
  intro phase other
  cases phase <;> cases other <;> decide

namespace Agent.Call

def Announces (uuid : String) (phases : List Phase) : Agent.Call → Prop
  | .device .now | .device (.log _) | .shared (.notify _) => True
  | .device (.publish event) =>
      event.requestUuid = uuid ∧ ∃ phase ∈ phases, event.status = phase.status
  | _ => False

def Whispers : Agent.Call → Prop
  | .device .now | .device (.log _) | .shared (.notify _) => True
  | _ => False

def Stores : Agent.Call → Prop
  | .device (.save ..) | .device (.delete ..) => True
  | _ => False

def Stages : Agent.Call → Prop
  | .device (.write ..) | .device (.source _) | .device (.log _) | .shared (.slot .isRunning) =>
      True
  | _ => False

def Fetches (uuid : String) : Agent.Call → Prop
  | .device (.erase bank) | .device (.openWriter bank) => bank = .secondary
  | .device (.write ..) | .device .closeWriter | .device (.download ..) | .device (.source _)
  | .device (.sleep _) | .shared (.slot .isRunning) => True
  | call => call.Announces uuid [.downloading, .error]

def HandsOver (uuid : String) : Agent.Call → Prop
  | .device (.readHeader bank) => bank = .secondary
  | .device .requestTest | .device .restart | .device (.sleep _) => True
  | call => call.Announces uuid [.deployed, .rebooting]

inductive Executes (request : Request) : Agent.Call → Prop
  | prepare : Executes request (.device .initSettings)
  | stage {stage : Stage} : stage ≠ .idle →
      Executes request (.device (.save Record.space Record.stageKey [stage.byte]))
  | id {id : RequestId} : RequestId.ofText? request.uuid = some id →
      Executes request (.device (.save Record.space Record.idKey id.encode))
  | fetch {call : Agent.Call} : call.Fetches request.uuid → Executes request call
  | deploy {call : Agent.Call} : call.Announces request.uuid [.deploying] → Executes request call
  | handOver {call : Agent.Call} : call.HandsOver request.uuid → Executes request call

def Clears : Agent.Call → Prop
  | .device (.save space key value) =>
      space = Record.space ∧ key = Record.stageKey ∧ value = [Stage.idle.byte]
  | .device (.delete space key) => space = Record.space ∧ key = Record.idKey
  | .device (.log _) => True
  | _ => False

def Concludes (call : Agent.Call) : Prop :=
  call.Clears ∨ call = .shared (.slot .finish)

def Settles : Agent.Call → Prop
  | .device (.load ..) | .device .swapType | .device .isConfirmed | .device .confirm => True
  | call => call.Clears ∨ ∃ uuid, call.Announces uuid [.success, .failure]

variable {uuid : String} {phases : List Phase} {call : Agent.Call}

theorem fetches_of_announces (announces : call.Announces uuid [.downloading, .error]) :
    call.Fetches uuid := by
  unfold Announces at announces
  split at announces
  · trivial
  · trivial
  · trivial
  · exact announces
  · contradiction

theorem fetches_of_stages (stages : call.Stages) : call.Fetches uuid := by
  unfold Stages at stages
  split at stages
  · trivial
  · trivial
  · trivial
  · trivial
  · contradiction

theorem handsOver_of_announces (announces : call.Announces uuid [.deployed, .rebooting]) :
    call.HandsOver uuid := by
  unfold Announces at announces
  split at announces
  · trivial
  · trivial
  · trivial
  · exact announces
  · contradiction

theorem settles_of_announces (announces : call.Announces uuid [.success, .failure]) :
    call.Settles := by
  unfold Settles
  split
  · trivial
  · trivial
  · trivial
  · trivial
  · exact .inr ⟨uuid, announces⟩

theorem settles_of_clears (clears : call.Clears) : call.Settles := by
  unfold Settles
  split
  · trivial
  · trivial
  · trivial
  · trivial
  · exact .inl clears

theorem settles_log (record : Log.Record) : Settles (.device (.log record)) :=
  .inl trivial

theorem not_stores_of_announces (announces : call.Announces uuid phases) : ¬ call.Stores := by
  intro stores
  unfold Stores at stores
  split at stores <;> contradiction

theorem clears_of_settles (settles : call.Settles) (stores : call.Stores) : call.Clears := by
  unfold Settles at settles
  split at settles
  · exact stores.elim
  · exact stores.elim
  · exact stores.elim
  · exact stores.elim
  · rcases settles with clears | ⟨uuid, announces⟩
    · exact clears
    · exact absurd stores (not_stores_of_announces announces)

theorem not_stores_of_fetches (fetches : call.Fetches uuid) : ¬ call.Stores := by
  intro stores
  unfold Stores at stores
  split at stores <;> contradiction

theorem not_stores_of_handsOver (handsOver : call.HandsOver uuid) : ¬ call.Stores := by
  intro stores
  unfold Stores at stores
  split at stores <;> contradiction

end Agent.Call

open Agent.Call (Announces Clears Concludes Fetches HandsOver Whispers)

theorem discard_eq_bind {interface : Interface} {α : Type} (program : Program interface α) :
    discard program = program.bind fun _ => .done () := rfl

section Announcing

variable {uuid : String} {phases : List Phase}

theorem notify_always {allowed : Agent.Call → Prop} (phase : Phase)
    (notifies : ∀ notification, allowed (.shared (.notify notification))) :
    (Announcement.notify phase).Always allowed fun _ => True := by
  rw [Announcement.notify]
  cases phase.notification? with
  | none => trivial
  | some notification => exact ⟨notifies notification, fun _ => trivial⟩

theorem send_always {event : Event} (announces : Announces uuid phases (.device (.publish event))) :
    (Announcement.send event).Always (Announces uuid phases) fun _ => True := by
  refine ⟨announces, fun reply => ?_⟩
  cases reply with
  | ok value => trivial
  | error failure => exact ⟨trivial, fun _ => trivial⟩

theorem publish_always {phase : Phase} (told : phase ∈ phases) (progress : Int32)
    (error : Option UpdateError) (message : String) :
    (Announcement.publish uuid phase progress error message).Always (Announces uuid phases)
      fun _ => True := by
  simp only [Announcement.publish, Agent.device, bind_eq, ask_bind, done_bind]
  refine ⟨trivial, fun time => ?_⟩
  refine always_bind (notify_always phase fun _ => trivial) ?_
  intro _ _
  exact send_always ⟨rfl, phase, told, rfl⟩

/-- Whoever withstands all but the event itself only has to know what the event makes of it. -/
theorem ensures_publish {surroundings : Surroundings Agent.interface}
    {guard : Agent.Call → surroundings.State → Prop} {quiet : surroundings.State → Prop}
    {told : Int64 → surroundings.State → Prop} {phase : Phase} {progress : Int32}
    {error : Option UpdateError} {message : String} {state : surroundings.State}
    (before : surroundings.Withstands guard Whispers quiet)
    (after : ∀ time, surroundings.Withstands guard Whispers (told time))
    (guarded : ∀ event state, quiet state → guard (.device (.publish event)) state)
    (tells : ∀ time state reply later, quiet state →
      surroundings.Answers (.device (.publish (.compose uuid phase progress error message time)))
        state reply later → told time later)
    (holds : quiet state) :
    surroundings.Ensures guard (fun _ last => ∃ time, told time last)
      (Announcement.publish uuid phase progress error message) state := by
  simp only [Announcement.publish, Agent.device, bind_eq, ask_bind, done_bind]
  refine before.ensures_ask (.device .now) trivial holds ?_
  intro time later holds
  have notifies : (Announcement.notify phase).Always Whispers fun _ => True :=
    notify_always phase fun _ => trivial
  refine Surroundings.ensures_bind (before.ensures notifies (fun _ whispers => whispers) holds) ?_
  rintro _ later ⟨_, holds⟩
  refine Surroundings.ensures_ask before.stable holds (guarded _) ?_
  intro state reply later holds answers
  have told := tells time state reply later holds answers
  cases reply with
  | ok value =>
      exact Surroundings.ensures_done (after time).stable told fun _ told => ⟨time, told⟩
  | error failure =>
      refine (after time).ensures_ask (.device (.log _)) trivial told ?_
      exact fun _ _ told =>
        Surroundings.ensures_done (after time).stable told fun _ told => ⟨time, told⟩

theorem phase_always {phase : Phase} (told : phase ∈ phases) :
    (Announcement.phase uuid phase).Always (Announces uuid phases) fun _ => True :=
  publish_always told ..

theorem error_always {phase : Phase} (told : phase ∈ phases) (error : UpdateError) :
    (Announcement.error uuid phase error).Always (Announces uuid phases) fun _ => True :=
  publish_always told ..

end Announcing

section Fetching

variable {uuid : String}

section Following

variable {allowed : Agent.Call → Prop} (stages : ∀ call, call.Stages → allowed call)
include stages

theorem handle_always (step : UInt8) (progress : Progress) (chunk : Chunk) :
    (Staging.handle step progress chunk).Always allowed fun _ => True := by
  simp only [Staging.handle, Agent.slot, Agent.shared, Agent.device, Agent.log, bind_eq, ask_bind,
    done_bind, pure_eq_done]
  refine ⟨stages _ trivial, fun running => ?_⟩
  cases running with
  | false => trivial
  | true =>
      refine ⟨stages _ trivial, fun written => ?_⟩
      cases written with
      | error error => exact ⟨stages _ trivial, fun _ => trivial⟩
      | ok written =>
          dsimp only
          split
          · trivial
          · exact ⟨stages _ trivial, fun _ => trivial⟩

theorem follow_always (step : UInt8) {report : UInt8 → Agent Unit}
    (reports : ∀ percent, (report percent).Always allowed fun _ => True)
    (download : Download) (progress : Progress) :
    (Staging.follow step report download progress).Always allowed fun _ => True := by
  induction download generalizing progress with
  | done result => trivial
  | ask call next ih =>
      cases call with
      | source call => exact ⟨stages _ trivial, fun reply => ih reply progress⟩
      | deliver chunk =>
          rw [Staging.follow]
          refine always_bind (handle_always stages step progress chunk) ?_
          intro handled _
          obtain ⟨answer, progress⟩ := handled
          cases answer with
          | error error => exact ih _ progress
          | ok told =>
              cases told with
              | none => exact ih _ progress
              | some percent => exact always_bind (reports percent) fun _ _ => ih _ progress

theorem finish_always (progress : Progress) :
    (Staging.finish progress).Always allowed fun _ => True := by
  rw [Staging.finish]
  split
  · exact ⟨stages _ trivial, fun _ => trivial⟩
  · trivial

variable (downloads : ∀ url headers timeout, allowed (.device (.download url headers timeout)))
include downloads

theorem staging_always (step : UInt8) (url : String) (headers : List (String × String))
    (timeout : UInt64) {report : UInt8 → Agent Unit}
    (reports : ∀ percent, (report percent).Always allowed fun _ => True) (progress : Progress) :
    (Staging.run step url headers timeout report progress).Always allowed fun _ => True := by
  simp only [Staging.run, Agent.slot, Agent.shared, Agent.device, Agent.log, bind_eq, ask_bind,
    done_bind, pure_eq_done]
  refine ⟨downloads _ _ _, fun download => ?_⟩
  refine always_bind (follow_always stages step reports download progress) ?_
  intro followed _
  obtain ⟨result, progress⟩ := followed
  refine ⟨stages _ trivial, fun running => ?_⟩
  cases running with
  | false => exact ⟨stages _ trivial, fun _ => trivial⟩
  | true =>
      cases result with
      | error error => trivial
      | ok value => exact always_bind (finish_always stages progress) fun _ _ => trivial

/-- An attempt begins with erasing the bank; this is what it does after that. -/
theorem attempt_begins (policy : Policy) (request : Request)
    (opens : allowed (.device (.openWriter .secondary))) (closes : allowed (.device .closeWriter))
    (reports : ∀ percent : UInt8,
      (Announcement.publish request.uuid .downloading (Int32.ofNat percent.toNat) none "").Always
        allowed fun _ => True) :
    ∃ next, Installation.attempt policy request = .ask (.device (.erase .secondary)) next ∧
      ∀ erased, (next erased).Always allowed fun _ => True := by
  simp only [Installation.attempt, Agent.device, Agent.log, bind_eq, ask_bind, done_bind,
    pure_eq_done]
  refine ⟨_, rfl, fun erased => ?_⟩
  cases erased with
  | error error => exact ⟨stages _ trivial, fun _ => trivial⟩
  | ok value =>
      refine ⟨opens, fun opened => ?_⟩
      cases opened with
      | error error => exact ⟨stages _ trivial, fun _ => trivial⟩
      | ok value =>
          refine always_bind (staging_always stages downloads _ _ _ _ reports _) ?_
          intro staged _
          exact ⟨closes, fun _ => trivial⟩

end Following

theorem percentage_always (uuid : String) (percent : UInt8) :
    (Announcement.publish uuid .downloading (Int32.ofNat percent.toNat) none "").Always
      (Fetches uuid) fun _ => True :=
  always_mono (publish_always (.head _) ..) (fun _ => Agent.Call.fetches_of_announces)
    fun _ _ => trivial

theorem attempt_always (policy : Policy) (request : Request) :
    (Installation.attempt policy request).Always (Fetches request.uuid) fun _ => True := by
  have stages (call : Agent.Call) : call.Stages → call.Fetches request.uuid :=
    Agent.Call.fetches_of_stages
  obtain ⟨next, same, onward⟩ := attempt_begins stages (fun _ _ _ => trivial) policy request rfl
    trivial (percentage_always request.uuid)
  rw [same]
  exact ⟨rfl, onward⟩

theorem attempts_always (policy : Policy) (request : Request) (remaining number : Nat)
    (last : UpdateError) :
    (Installation.attempts policy request remaining number last).Always (Fetches request.uuid)
      fun _ => True := by
  have quiet {program : Agent Unit}
      (always : program.Always (Announces request.uuid [.downloading, .error]) fun _ => True) :
      program.Always (Fetches request.uuid) fun _ => True :=
    always_mono always (fun _ => Agent.Call.fetches_of_announces) fun _ _ => trivial
  induction remaining generalizing number last with
  | zero =>
      refine ⟨trivial, fun running => ?_⟩
      cases running <;> trivial
  | succ remaining ih =>
      simp only [Installation.attempts, Agent.slot, Agent.shared, Agent.device, Agent.log, bind_eq,
        ask_bind, done_bind, pure_eq_done]
      refine ⟨trivial, fun running => ?_⟩
      cases running with
      | false => trivial
      | true =>
          refine always_bind (quiet (phase_always (.head _))) ?_
          intro _ _
          refine always_bind (attempt_always policy request) ?_
          intro result _
          cases result with
          | ok value => trivial
          | error error =>
              dsimp only
              split
              · refine ⟨trivial, fun _ => ?_⟩
                refine always_bind (quiet (error_always (.tail _ (.head _)) error)) ?_
                intro _ _
                exact ⟨trivial, fun _ => ih (number + 1) error⟩
              · trivial

end Fetching

section Deploying

variable {uuid : String}

theorem handOver_always (policy : Policy) :
    (Installation.handOver policy uuid).Always (HandsOver uuid)
      fun result => result = .ok () ∨ result = .error .internal := by
  have quiet {phase : Phase} (told : phase ∈ [Phase.deployed, .rebooting]) :
      (Announcement.phase uuid phase).Always (HandsOver uuid) fun _ => True :=
    always_mono (phase_always told) (fun _ => Agent.Call.handsOver_of_announces) fun _ _ => trivial
  simp only [Installation.handOver, Agent.device, Agent.log, bind_eq, ask_bind, done_bind,
    pure_eq_done]
  refine ⟨rfl, fun read => ?_⟩
  cases read with
  | error error => exact ⟨trivial, fun _ => .inr rfl⟩
  | ok header =>
      refine ⟨trivial, fun _ => ⟨trivial, fun requested => ?_⟩⟩
      cases requested with
      | error error => exact ⟨trivial, fun _ => .inr rfl⟩
      | ok value =>
          refine always_bind (quiet (.head _)) ?_
          intro _ _
          refine always_bind (quiet (.tail _ (.head _))) ?_
          intro _ _
          exact ⟨trivial, fun _ => ⟨trivial, fun _ => ⟨trivial, fun _ => ⟨trivial,
            fun _ => .inl rfl⟩⟩⟩⟩

theorem orFail_always {α : Type} {allowed : Agent.Call → Prop}
    (logs : ∀ record, allowed (.device (.log record))) (cause : SettingsError)
    (complaint : String) (reply : Except Failure α) :
    (Record.orFail cause complaint reply).Always allowed fun _ => True := by
  cases reply with
  | ok value => trivial
  | error failure => exact ⟨logs _, fun _ => trivial⟩

section Storing

variable {allowed : Agent.Call → Prop} (logs : ∀ record, allowed (.device (.log record)))
include logs

theorem prepare_always (asks : allowed (.device .initSettings)) :
    Record.prepare.Always allowed fun _ => True :=
  ⟨asks, fun reply => orFail_always logs _ _ reply⟩

theorem saveStage_always (saves : ∀ key value, allowed (.device (.save Record.space key value)))
    (stage : Stage) : (Record.saveStage stage).Always allowed fun _ => True :=
  ⟨saves _ _, fun reply => orFail_always logs _ _ reply⟩

theorem saveId_always (saves : ∀ key value, allowed (.device (.save Record.space key value)))
    (id : RequestId) : (Record.saveId id).Always allowed fun _ => True :=
  ⟨saves _ _, fun reply => orFail_always logs _ _ reply⟩

theorem load_always (loads : ∀ key, allowed (.device (.load Record.space key))) :
    Record.load.Always allowed fun _ => True := by
  simp only [Record.load, Agent.log, Agent.device, bind_eq, ask_bind, done_bind, pure_eq_done]
  refine ⟨loads _, fun stage => always_bind (orFail_always logs _ _ _) fun stage _ => ?_⟩
  cases stage with
  | error error => trivial
  | ok stage =>
      refine ⟨loads _, fun id => always_bind (orFail_always logs _ _ _) fun id _ => ?_⟩
      cases id with
      | error error => trivial
      | ok id =>
          dsimp only
          split
          · exact ⟨logs _, fun _ => trivial⟩
          · trivial

end Storing

section Executing

open Agent.Call (Executes)

variable {request : Request}

theorem executes_log (record : Log.Record) : Executes request (.device (.log record)) :=
  .fetch trivial

theorem stage_executes {stage : Stage} (other : stage ≠ .idle) :
    (Record.saveStage stage).Always (Executes request) fun _ => True :=
  ⟨.stage other, fun saved => orFail_always executes_log _ _ saved⟩

theorem fetch_executes (policy : Policy) :
    (Installation.fetch policy request).Always (Executes request) fun _ => True := by
  simp only [Installation.fetch, Agent.log, Agent.device, bind_eq, ask_bind, done_bind,
    pure_eq_done]
  split
  · trivial
  · rename_i id known
    have saves : (Record.saveId id).Always (Executes request) fun _ => True :=
      ⟨.id known, fun saved => orFail_always executes_log _ _ saved⟩
    refine always_bind saves fun saved _ => ?_
    cases saved with
    | error error => exact ⟨executes_log _, fun _ => trivial⟩
    | ok value =>
        exact always_mono (attempts_always policy request _ _ _) (fun _ => .fetch)
          fun _ _ => trivial

theorem deploy_executes (policy : Policy) :
    (Installation.deploy policy request.uuid).Always (Executes request) fun _ => True := by
  simp only [Installation.deploy, Agent.log, Agent.device, bind_eq, ask_bind, done_bind,
    pure_eq_done]
  refine always_bind (always_mono (phase_always (.head [])) (fun _ => .deploy)
    fun _ _ => trivial) fun _ _ => ?_
  refine ⟨executes_log _, fun _ => always_bind (stage_executes (by decide)) fun saved _ => ?_⟩
  cases saved with
  | error error => trivial
  | ok value =>
      exact always_mono (handOver_always policy) (fun _ => .handOver) fun _ _ => trivial

theorem execute_always (policy : Policy) (request : Request) :
    (Installation.execute policy request).Always (Executes request) fun _ => True := by
  simp only [Installation.execute, Agent.log, Agent.device, bind_eq, ask_bind, done_bind,
    pure_eq_done]
  refine always_bind (prepare_always executes_log .prepare) fun prepared _ => ?_
  cases prepared with
  | error error => trivial
  | ok value =>
      refine ⟨executes_log _, fun _ => always_bind (stage_executes (by decide)) fun saved _ => ?_⟩
      cases saved with
      | error error => trivial
      | ok value =>
          refine always_bind (fetch_executes policy) fun fetched _ => ?_
          cases fetched with
          | error error => trivial
          | ok value => exact deploy_executes policy

end Executing

theorem reset_always : Record.reset.Always Clears fun _ => True := by
  refine ⟨⟨rfl, rfl⟩, fun deleted => ?_⟩
  simp only [done_bind]
  refine always_bind (orFail_always (fun _ => trivial) _ _ deleted) ?_
  intro deleted _
  refine ⟨⟨rfl, rfl, rfl⟩, fun saved => ?_⟩
  simp only [done_bind]
  refine always_bind (orFail_always (fun _ => trivial) _ _ saved) ?_
  intro saved _
  cases saved <;> trivial

theorem conclude_always (outcome : Outcome) :
    (Installation.conclude outcome).Always Concludes (· = outcome) := by
  simp only [Installation.conclude, discard_eq_bind, Agent.slot, Agent.shared, Agent.log,
    Agent.device, bind_eq, ask_bind, done_bind, pure_eq_done]
  refine always_bind (always_mono reset_always (fun _ => .inl) fun _ holds => holds) ?_
  intro result _
  cases result with
  | ok value => exact ⟨.inr rfl, fun _ => rfl⟩
  | error error => exact ⟨.inl trivial, fun _ => ⟨.inr rfl, fun _ => rfl⟩⟩

end Deploying

section Settling

open Agent.Call (Settles settles_log)

theorem resolve_always (record : Record) :
    (Resolution.resolve record).Always Settles fun _ => True := by
  have quiet {uuid : String} {program : Agent Unit}
      (always : program.Always (Announces uuid [.success, .failure]) fun _ => True) :
      program.Always Settles fun _ => True :=
    always_mono always (fun _ => Agent.Call.settles_of_announces) fun _ _ => trivial
  have fails (id : RequestId) (error : UpdateError) :
      (Resolution.fail id error).Always Settles fun _ => True :=
    always_bind (quiet (error_always (.tail _ (.head [])) error)) fun _ _ => trivial
  simp only [Resolution.resolve, Agent.log, Agent.device, bind_eq, ask_bind, done_bind,
    pure_eq_done]
  split
  · exact ⟨settles_log _, fun _ => trivial⟩
  · refine ⟨settles_log _, fun _ => ?_⟩
    split
    · refine ⟨trivial, fun swap => ?_⟩
      dsimp only
      split
      · refine ⟨trivial, fun confirmed => ?_⟩
        dsimp only
        split
        · exact ⟨settles_log _, fun _ => fails _ _⟩
        · refine ⟨trivial, fun confirming => ?_⟩
          cases confirming with
          | error error => exact ⟨settles_log _, fun _ => fails _ _⟩
          | ok value =>
              refine ⟨settles_log _, fun _ => ?_⟩
              exact always_bind (quiet (phase_always (.head _))) fun _ _ => trivial
      · exact ⟨settles_log _, fun _ => fails _ _⟩
    · exact ⟨settles_log _, fun _ => fails _ _⟩

theorem resolution_always : Resolution.run.Always Settles fun _ => True := by
  have resets {next : Except SettingsError Unit → Agent Resolution}
      (onward : ∀ result, (next result).Always Settles fun _ => True) :
      (Record.reset.bind next).Always Settles fun _ => True :=
    always_bind (always_mono reset_always (fun _ => Agent.Call.settles_of_clears)
      fun _ _ => trivial) fun result _ => onward result
  simp only [Resolution.run, Agent.log, Agent.device, bind_eq, ask_bind, done_bind, pure_eq_done]
  refine always_bind (load_always settles_log fun _ => trivial) ?_
  intro loaded _
  cases loaded with
  | error error =>
      refine ⟨settles_log _, fun _ => resets fun result => ?_⟩
      cases result with
      | error error => exact ⟨settles_log _, fun _ => trivial⟩
      | ok value => trivial
  | ok record =>
      refine always_bind (resolve_always record) fun resolution _ => resets ?_
      intro result
      cases result with
      | error error => exact ⟨settles_log _, fun _ => trivial⟩
      | ok value => trivial

end Settling

end DualBank
