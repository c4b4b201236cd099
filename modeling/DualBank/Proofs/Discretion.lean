import DualBank.Proofs.Account
import DualBank.Proofs.Process

/-! Programs that go on alike however the announcing of events went. Two programs are alike if they
make the same calls with the same continuations, but for lines of the log and for what a publication
was answered. Not every program is like itself in this sense; those of the agent are. -/

namespace DualBank

open Program

namespace Program

variable {α β : Type}

inductive Alike : Agent α → Agent α → Prop
  | done (value : α) : Alike (.done value) (.done value)
  | call {call : Agent.Call} {next onward : Agent.Reply call → Agent α} : call.Mute →
      (∀ reply, Alike (next reply) (onward reply)) → Alike (.ask call next) (.ask call onward)
  | told {event : Event} {next onward : Except Failure Unit → Agent α} :
      (∀ heard other, Alike (next heard) (onward other)) →
      Alike (.ask (.device (.publish event)) next) (.ask (.device (.publish event)) onward)
  | left {record : Log.Record} {next : Unit → Agent α} {other : Agent α} :
      Alike (next ()) other → Alike (.ask (.device (.log record)) next) other
  | right {record : Log.Record} {one : Agent α} {onward : Unit → Agent α} :
      Alike one (onward ()) → Alike one (.ask (.device (.log record)) onward)

theorem alike_bind {one other : Agent α} {continuation onward : α → Agent β}
    (first : one.Alike other) (second : ∀ value, (continuation value).Alike (onward value)) :
    (one.bind continuation).Alike (other.bind onward) := by
  induction first with
  | done value => exact second value
  | call mute _ ih => exact .call mute ih
  | told _ ih => exact .told ih
  | left _ ih => exact .left ih
  | right _ ih => exact .right ih

/-- Who announces nothing cannot be told apart by what becomes of announcements. -/
theorem alike_of_mute {program : Agent α} {post : α → Prop}
    (always : program.Always Agent.Call.Mute post) : program.Alike program := by
  induction program with
  | done value => exact .done value
  | ask call next ih => exact .call always.1 fun reply => ih reply (always.2 reply)

theorem alike_log {record : Log.Record} {next : Unit → Agent α}
    (alike : (next ()).Alike (next ())) :
    (ask (.device (.log record)) next : Agent α).Alike (.ask (.device (.log record)) next) :=
  .left (.right alike)

def pastLog : Agent α → Agent α
  | .ask (.device (.log _)) next => (next ()).pastLog
  | program => program

inductive Abreast : Agent α → Agent α → Prop
  | done (value : α) : Abreast (.done value) (.done value)
  | call {call : Agent.Call} {next onward : Agent.Reply call → Agent α} : call.Mute →
      (∀ reply, (next reply).Alike (onward reply)) → Abreast (.ask call next) (.ask call onward)
  | told {event : Event} {next onward : Except Failure Unit → Agent α} :
      (∀ heard other, (next heard).Alike (onward other)) →
      Abreast (.ask (.device (.publish event)) next) (.ask (.device (.publish event)) onward)

theorem abreast_pastLog {one other : Agent α} (alike : one.Alike other) :
    one.pastLog.Abreast other.pastLog := by
  induction alike with
  | done value => exact .done value
  | @call call next onward mute alike ih =>
      cases call with
      | device call => cases call <;> first | exact ih () | exact .call mute alike
      | shared call => exact .call mute alike
      | join => exact .call mute alike
  | told alike _ => exact .told alike
  | left _ ih => exact ih
  | right _ ih => exact ih

end Program

section Announcing

theorem send_alike (event : Event) :
    (Announcement.send event).Alike (Announcement.send event) := by
  refine .told fun heard other => ?_
  cases heard with
  | ok value =>
      cases other with
      | ok value => exact .done ()
      | error failure => exact .right (.done ())
  | error failure =>
      cases other with
      | ok value => exact .left (.done ())
      | error failure => exact .left (.right (.done ()))

theorem publish_alike (uuid : String) (phase : Phase) (progress : Int32)
    (error : Option UpdateError) (message : String) :
    (Announcement.publish uuid phase progress error message).Alike
      (Announcement.publish uuid phase progress error message) := by
  simp only [Announcement.publish, Agent.device, bind_eq, ask_bind, done_bind]
  refine .call trivial fun time => ?_
  exact alike_bind (alike_of_mute (notify_always phase fun _ => trivial)) fun _ => send_alike _

end Announcing

section Installing

variable (policy : Policy) (request : Request)

theorem mute_of_stages (call : Agent.Call) (stages : call.Stages) : call.Mute := by
  unfold Agent.Call.Stages at stages
  split at stages <;> trivial

theorem reset_mute : Record.reset.Always Agent.Call.Mute fun _ => True :=
  always_mono reset_always (fun _ clears => mute_of_concludes (.inl clears)) fun _ _ => trivial

theorem follow_alike (step : UInt8) {report : UInt8 → Agent Unit}
    (reports : ∀ percent, (report percent).Alike (report percent)) (download : Download)
    (progress : Progress) :
    (Staging.follow step report download progress).Alike
      (Staging.follow step report download progress) := by
  induction download generalizing progress with
  | done result => exact .done _
  | ask call next ih =>
      cases call with
      | source call => exact .call trivial fun reply => ih reply progress
      | deliver chunk =>
          rw [Staging.follow]
          refine alike_bind (alike_of_mute (handle_always mute_of_stages step progress chunk)) ?_
          rintro ⟨answer, progress⟩
          cases answer with
          | error error => exact ih _ progress
          | ok told =>
              cases told with
              | none => exact ih _ progress
              | some percent => exact alike_bind (reports percent) fun _ => ih _ progress

theorem staging_alike (step : UInt8) (url : String) (headers : List (String × String))
    (timeout : UInt64) {report : UInt8 → Agent Unit}
    (reports : ∀ percent, (report percent).Alike (report percent)) (progress : Progress) :
    (Staging.run step url headers timeout report progress).Alike
      (Staging.run step url headers timeout report progress) := by
  simp only [Staging.run, Agent.slot, Agent.shared, Agent.device, Agent.log, bind_eq, ask_bind,
    done_bind, pure_eq_done]
  refine .call trivial fun download => ?_
  refine alike_bind (follow_alike step reports download progress) ?_
  rintro ⟨result, progress⟩
  refine .call trivial fun running => ?_
  cases running with
  | false => exact alike_log (.done _)
  | true =>
      cases result with
      | error error => exact .done _
      | ok value => exact alike_bind (alike_of_mute (finish_mute progress)) fun _ => .done _

theorem attempt_alike :
    (Installation.attempt policy request).Alike (Installation.attempt policy request) := by
  simp only [Installation.attempt, Agent.device, Agent.log, bind_eq, ask_bind, done_bind,
    pure_eq_done]
  refine .call trivial fun erased => ?_
  cases erased with
  | error error => exact alike_log (.done _)
  | ok value =>
      refine .call trivial fun opened => ?_
      cases opened with
      | error error => exact alike_log (.done _)
      | ok value =>
          refine alike_bind (staging_alike _ _ _ _ (fun _ => publish_alike ..) _) ?_
          exact fun _ => .call trivial fun _ => .done _

theorem attempts_alike (remaining number : Nat) (last : UpdateError) :
    (Installation.attempts policy request remaining number last).Alike
      (Installation.attempts policy request remaining number last) := by
  induction remaining generalizing number last with
  | zero =>
      refine .call trivial fun running => ?_
      cases running <;> exact .done _
  | succ remaining ih =>
      simp only [Installation.attempts, Agent.slot, Agent.shared, Agent.device, Agent.log, bind_eq,
        ask_bind, done_bind, pure_eq_done]
      refine .call trivial fun running => ?_
      cases running with
      | false => exact .done _
      | true =>
          refine alike_bind (publish_alike ..) fun _ => ?_
          refine alike_bind (attempt_alike policy request) fun result => ?_
          cases result with
          | ok value => exact .done _
          | error error =>
              dsimp only
              split
              · refine .call trivial fun _ => ?_
                exact alike_bind (publish_alike ..) fun _ => alike_log (ih (number + 1) error)
              · exact .done _

theorem fetch_alike :
    (Installation.fetch policy request).Alike (Installation.fetch policy request) := by
  simp only [Installation.fetch, Agent.log, Agent.device, bind_eq, ask_bind, done_bind,
    pure_eq_done]
  split
  · exact .done _
  · refine alike_bind (alike_of_mute (saveId_always mute_log mute_save _)) fun saved => ?_
    cases saved with
    | error error => exact alike_log (.done _)
    | ok value => exact attempts_alike policy request _ _ _

theorem handOver_alike (uuid : String) :
    (Installation.handOver policy uuid).Alike (Installation.handOver policy uuid) := by
  simp only [Installation.handOver, Agent.device, Agent.log, bind_eq, ask_bind, done_bind,
    pure_eq_done]
  refine .call trivial fun header => ?_
  cases header with
  | error error => exact alike_log (.done _)
  | ok header =>
      refine alike_log (.call trivial fun requested => ?_)
      cases requested with
      | error error => exact alike_log (.done _)
      | ok value =>
          refine alike_bind (publish_alike ..) fun _ => ?_
          refine alike_bind (publish_alike ..) fun _ => ?_
          exact alike_log (.call trivial fun _ => alike_log (.call trivial fun _ => .done _))

theorem deploy_alike (uuid : String) :
    (Installation.deploy policy uuid).Alike (Installation.deploy policy uuid) := by
  simp only [Installation.deploy, Agent.log, Agent.device, bind_eq, ask_bind, done_bind,
    pure_eq_done]
  refine alike_bind (publish_alike ..) fun _ => alike_log ?_
  refine alike_bind (alike_of_mute (saveStage_always mute_log mute_save _)) fun saved => ?_
  cases saved with
  | error error => exact .done _
  | ok value => exact handOver_alike policy uuid

theorem execute_alike :
    (Installation.execute policy request).Alike (Installation.execute policy request) := by
  simp only [Installation.execute, Agent.log, Agent.device, bind_eq, ask_bind, done_bind,
    pure_eq_done]
  refine alike_bind (alike_of_mute (prepare_always mute_log trivial)) fun prepared => ?_
  cases prepared with
  | error error => exact .done _
  | ok value =>
      refine alike_log (alike_bind (alike_of_mute (saveStage_always mute_log mute_save _)) ?_)
      intro saved
      cases saved with
      | error error => exact .done _
      | ok value =>
          refine alike_bind (fetch_alike policy request) fun fetched => ?_
          cases fetched with
          | error error => exact .done _
          | ok value => exact deploy_alike policy request.uuid

theorem conclude_alike (outcome : Outcome) :
    (Installation.conclude outcome).Alike (Installation.conclude outcome) :=
  alike_of_mute (always_mono (conclude_always outcome) (fun _ => mute_of_concludes)
    fun _ same => same)

/-- An installation takes no notice of how its announcements went. -/
theorem installation_alike :
    (Session.installation policy request).Alike (Session.installation policy request) := by
  refine alike_bind ?_ fun outcome => .done _
  simp only [Installation.run, Agent.log, Agent.device, bind_eq, ask_bind, done_bind, pure_eq_done]
  refine alike_bind (publish_alike ..) fun _ => alike_log ?_
  refine alike_bind (execute_alike policy request) fun result => ?_
  split
  · exact .done _
  · exact alike_log (conclude_alike _)
  · exact alike_log (alike_bind (publish_alike ..) fun _ => conclude_alike _)

theorem panicked_alike : Session.panicked.Alike Session.panicked := by
  simp only [Session.panicked, Installation.unwind, discard_eq_bind, Agent.slot, Agent.shared,
    Agent.log, Agent.device, bind_eq, ask_bind, done_bind, Program.bind_assoc]
  refine .call trivial fun _ => alike_log ?_
  exact alike_bind (alike_of_mute reset_mute) fun _ => .call trivial fun _ => .done _

end Installing

section Demanding

variable (policy : Policy)

theorem fail_alike (id : RequestId) (error : UpdateError) :
    (Resolution.fail id error).Alike (Resolution.fail id error) :=
  alike_bind (publish_alike ..) fun _ => .done _

theorem resolve_alike (record : Record) :
    (Resolution.resolve record).Alike (Resolution.resolve record) := by
  simp only [Resolution.resolve, Agent.log, Agent.device, bind_eq, ask_bind, done_bind,
    pure_eq_done]
  split
  · exact alike_log (.done _)
  · refine alike_log ?_
    split
    · refine .call trivial fun swap => ?_
      split
      · refine .call trivial fun confirmed => ?_
        split
        · exact alike_log (fail_alike _ _)
        · refine .call trivial fun confirming => ?_
          cases confirming with
          | error error => exact alike_log (fail_alike _ _)
          | ok value => exact alike_log (alike_bind (publish_alike ..) fun _ => .done _)
      · exact alike_log (fail_alike _ _)
    · exact alike_log (fail_alike _ _)

theorem resolution_alike : Resolution.run.Alike Resolution.run := by
  have concludes {next : Except SettingsError Unit → Agent Resolution}
      (ended : ∀ value, (next (.ok value)).Alike (next (.ok value)))
      (complained : ∀ error, (next (.error error)).Alike (next (.error error))) :
      (Record.reset.bind next).Alike (Record.reset.bind next) := by
    refine alike_bind (alike_of_mute reset_mute) fun result => ?_
    cases result with
    | ok value => exact ended value
    | error error => exact complained error
  simp only [Resolution.run, Agent.log, Agent.device, bind_eq, ask_bind, done_bind, pure_eq_done]
  refine alike_bind (alike_of_mute (load_always mute_log fun _ => trivial)) fun loaded => ?_
  cases loaded with
  | error error => exact alike_log (concludes (fun _ => .done _) fun _ => alike_log (.done _))
  | ok record =>
      refine alike_bind (resolve_alike record) fun resolution => ?_
      exact concludes (fun _ => .done _) fun _ => alike_log (.done _)

theorem submit_alike (request : Request) :
    (Admission.submit policy request).Alike (Admission.submit policy request) := by
  simp only [Admission.submit, discard_eq_bind, Agent.join, Agent.slot, Agent.shared, Agent.log,
    Agent.device, bind_eq, ask_bind, done_bind, pure_eq_done]
  split
  · exact alike_log (.done _)
  · refine .call trivial fun started => ?_
    cases started with
    | false => exact alike_log (alike_bind (publish_alike ..) fun _ => .done _)
    | true =>
        refine .call trivial fun _ => .call trivial fun created => ?_
        cases created with
        | ok value => exact .call trivial fun _ => alike_log (.done _)
        | error error =>
            refine alike_log (alike_bind (publish_alike ..) fun _ => ?_)
            exact .call trivial fun _ => .done _

theorem cancel_alike (uuid : String) :
    (Admission.cancel uuid).Alike (Admission.cancel uuid) := by
  simp only [Admission.cancel, Agent.slot, Agent.shared, Agent.log, Agent.device, bind_eq, ask_bind,
    done_bind, pure_eq_done]
  refine .call trivial fun accepted => ?_
  cases accepted with
  | true => exact alike_log (.done _)
  | false => exact alike_log (alike_bind (publish_alike ..) fun _ => .done _)

theorem command_alike (command : Command) :
    (Admission.command policy command).Alike (Admission.command policy command) := by
  simp only [Admission.command, Agent.log, Agent.device, bind_eq, ask_bind, done_bind, pure_eq_done]
  split
  · split
    · exact submit_alike policy _
    · exact cancel_alike _
    · exact alike_log (alike_bind (publish_alike ..) fun _ => .done _)
  · exact alike_log (.done _)

/-- What a client demands takes no notice of how announcements went. -/
theorem demand_alike (demand : Demand) :
    (demand.program policy).Alike (demand.program policy) := by
  cases demand with
  | submit request => exact alike_bind (submit_alike policy request) fun _ => .done _
  | cancel uuid => exact alike_bind (cancel_alike uuid) fun _ => .done _
  | command command => exact alike_bind (command_alike policy command) fun _ => .done _
  | payload payload =>
      refine alike_bind ?_ fun _ => .done _
      simp only [Admission.payload, Agent.log, Agent.device, bind_eq, ask_bind, done_bind,
        pure_eq_done]
      split
      · exact command_alike policy _
      · exact alike_log (.done _)
  | recover =>
      refine alike_bind ?_ fun _ => .done _
      simp only [Admission.recover, Agent.slot, Agent.shared, Agent.log, Agent.device, bind_eq,
        ask_bind, done_bind, pure_eq_done]
      refine .call trivial fun busy => ?_
      cases busy with
      | true => exact alike_log (.done _)
      | false => exact alike_bind resolution_alike fun _ => .done _
  | wait =>
      refine alike_bind ?_ fun _ => .done _
      simp only [Admission.wait, Agent.join, Agent.log, Agent.device, bind_eq, ask_bind, done_bind,
        pure_eq_done]
      refine .call trivial fun joined => ?_
      cases joined with
      | panicked => exact alike_log (.done _)
      | _ => exact .done _

end Demanding

end DualBank
