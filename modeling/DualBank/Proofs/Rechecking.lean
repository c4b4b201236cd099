import DualBank.Proofs.Obedience

/-! The calls during which a cancel is never too late: a download, the pause before the next
attempt and the announcement of an error. Whatever comes of them, the installation looks at the
slot again. -/

namespace DualBank

open Program Surroundings Cancellation Scene
open Happening (look)

namespace Agent.Call

def Deploys : Agent.Call → Prop
  | .device (.save space key value) =>
      space = Record.space ∧ key = Record.stageKey ∧ value = [Stage.pendingReboot.byte]
  | .device (.publish event) =>
      event.status = Phase.deploying.status ∨ event.status = Phase.failure.status
  | .device (.readHeader _) | .device .requestTest | .device .restart => True
  | _ => False

def Trails : Agent.Call → Prop
  | .device (.download ..) | .shared (.slot .isRunning) => False
  | .device (.publish event) => event.status ≠ Phase.error.status
  | _ => True

def Lingers (call : Agent.Call) : Prop :=
  ¬ call.Deploys ∧ ∀ url headers timeout, call ≠ .device (.download url headers timeout)

def Passing : Agent.Call → Prop
  | .device (.download ..) | .device (.sleep _) => False
  | .device (.publish event) => event.status ≠ Phase.error.status ∧
      event.status ≠ Phase.deploying.status ∧ event.status ≠ Phase.failure.status
  | call => ¬ call.Deploys

end Agent.Call

open Agent.Call

def Installation.transfer (policy : Policy) (request : Request) :
    Agent (Except UpdateError Unit × Progress) :=
  .ask (.device (.download request.url policy.headers policy.downloadTimeout)) fun download =>
    Staging.follow policy.progressStep (fun percent =>
      Announcement.publish request.uuid .downloading (Int32.ofNat percent.toNat) none "") download
      .zero

namespace Program

variable {α β : Type} {program : Agent α} {continuation : α → Agent β}

def Looks : Agent α → Prop
  | .done _ => False
  | .ask call next => call = .shared (.slot .isRunning) ∨ ∀ reply, (next reply).Looks

theorem looks_bind (onward : ∀ value, (continuation value).Looks) :
    (program.bind continuation).Looks := by
  induction program with
  | done value => exact onward value
  | ask call next ih => exact .inr ih

theorem looks_bind_left (looks : program.Looks) : (program.bind continuation).Looks := by
  induction program with
  | done value => exact looks.elim
  | ask call next ih => exact looks.imp_right fun onward reply => ih reply (onward reply)

structure Watchful (policy : Policy) (request : Request) (rest : Agent α) : Prop where
  download : ∀ url headers timeout next,
    rest = .ask (.device (.download url headers timeout)) next →
      ∃ back, rest = (Installation.transfer policy request).bind back ∧
        ∀ followed, (back followed).Looks
  sleep : ∀ milliseconds next, rest = .ask (.device (.sleep milliseconds)) next →
    ∀ reply, (next reply).Looks
  error : ∀ event next, rest = .ask (.device (.publish event)) next →
    event.status = Phase.error.status → ∀ reply, (next reply).Looks

def Watches (policy : Policy) (request : Request) : Agent α → Prop
  | .done _ => True
  | .ask call next => Watchful policy request (.ask call next) ∧ ∀ reply,
      (call.Deploys → (next reply).Always Trails fun _ => True) ∧
      (¬ call.Deploys → (next reply).Watches policy request)

variable {policy : Policy} {request : Request} {call : Agent.Call}
  {next : Agent.Reply call → Agent α}

theorem watchful_of_looks
    (other : ∀ url headers timeout, call ≠ .device (.download url headers timeout))
    (looks : ∀ reply, (next reply).Looks) :
    (ask call next : Agent α).Watchful policy request where
  download := by
    rintro url headers timeout _ ⟨⟩
    exact absurd rfl (other url headers timeout)
  sleep := by
    rintro milliseconds _ ⟨⟩
    exact looks
  error := by
    rintro event _ ⟨⟩ _
    exact looks

theorem watchful_of_passing (passing : call.Passing) :
    (ask call next : Agent α).Watchful policy request where
  download := by
    rintro url headers timeout _ ⟨⟩
    exact passing.elim
  sleep := by
    rintro milliseconds _ ⟨⟩
    exact passing.elim
  error := by
    rintro event _ ⟨⟩ error
    exact absurd error passing.1

theorem not_deploys_of_passing (passing : call.Passing) : ¬ call.Deploys := by
  unfold Passing at passing
  split at passing
  · exact passing.elim
  · exact passing.elim
  · exact fun deploys => deploys.elim passing.2.1 passing.2.2
  · exact passing

theorem watchful_bind (watchful : (ask call next : Agent α).Watchful policy request) :
    ((ask call next : Agent α).bind continuation).Watchful policy request where
  download := by
    rintro url headers timeout _ ⟨⟩
    obtain ⟨back, same, looks⟩ := watchful.download url headers timeout next rfl
    refine ⟨fun followed => (back followed).bind continuation, ?_, fun followed => ?_⟩
    · rw [same, Program.bind_assoc]
    · exact looks_bind_left (looks followed)
  sleep := by
    rintro milliseconds _ ⟨⟩
    exact fun reply => looks_bind_left (watchful.sleep milliseconds next rfl reply)
  error := by
    rintro event _ ⟨⟩ error
    exact fun reply => looks_bind_left (watchful.error event next rfl error reply)

theorem watches_bind
    (spared : program.Always (fun call : Agent.Call => ¬ call.Deploys) fun _ => True)
    (first : program.Watches policy request)
    (second : ∀ value, (continuation value).Watches policy request) :
    (program.bind continuation).Watches policy request := by
  induction program with
  | done value => exact second value
  | ask call next ih =>
      refine ⟨watchful_bind first.1, fun reply => ⟨fun deploys => ?_, fun _ => ?_⟩⟩
      · exact absurd deploys spared.1
      · exact ih reply (spared.2 reply) ((first.2 reply).2 spared.1)

theorem watches_trailing (first : program.Watches policy request)
    (trailing : ∀ value, (continuation value).Always Trails fun _ => True)
    (second : ∀ value, (continuation value).Watches policy request) :
    (program.bind continuation).Watches policy request := by
  induction program with
  | done value => exact second value
  | ask call next ih =>
      refine ⟨watchful_bind first.1, fun reply => ⟨fun deploys => ?_, fun undeployed => ?_⟩⟩
      · exact always_bind ((first.2 reply).1 deploys) fun value _ => trailing value
      · exact ih reply ((first.2 reply).2 undeployed)

theorem watches_ask (passing : call.Passing)
    (onward : ∀ reply, (next reply).Watches policy request) :
    (ask call next : Agent α).Watches policy request :=
  ⟨watchful_of_passing passing, fun reply =>
    ⟨fun deploys => absurd deploys (not_deploys_of_passing passing), fun _ => onward reply⟩⟩

theorem watches_passing {condition : α → Prop} (passing : program.Always Passing condition)
    (onward : ∀ value, (continuation value).Watches policy request) :
    (program.bind continuation).Watches policy request := by
  induction program with
  | done value => exact onward value
  | ask call next ih => exact watches_ask passing.1 fun reply => ih reply (passing.2 reply)

/-- Before something that looks, no call needs to be watched but a download. -/
theorem watches_before_look {condition : α → Prop} (calls : program.Always Lingers condition)
    (looks : ∀ value, (continuation value).Looks)
    (onward : ∀ value, (continuation value).Watches policy request) :
    (program.bind continuation).Watches policy request := by
  induction program with
  | done value => exact onward value
  | ask call next ih =>
      refine ⟨watchful_of_looks calls.1.2 fun _ => looks_bind looks, fun reply =>
        ⟨fun deploys => ?_, fun _ => ?_⟩⟩
      · exact absurd deploys calls.1.1
      · exact ih reply (calls.2 reply)

theorem watches_of_passing {condition : α → Prop} (passing : program.Always Passing condition) :
    program.Watches policy request := by
  rw [← bind_done program]
  exact watches_passing passing fun _ => trivial

end Program

section Installing

variable {uuid : String} {call : Agent.Call}

theorem passing_of_announces {phases : List Phase} (announces : call.Announces uuid phases)
    (others : ∀ phase ∈ phases, phase ≠ .error ∧ phase ≠ .deploying ∧ phase ≠ .failure) :
    call.Passing := by
  unfold Announces at announces
  split at announces
  · exact not_false
  · exact not_false
  · exact not_false
  · obtain ⟨_, phase, told, same⟩ := announces
    obtain ⟨error, deploying, failure⟩ := others phase told
    have differs {other : Phase} (apart : phase ≠ other) : phase.status ≠ other.status :=
      fun equal => apart (Phase.status_injective equal)
    rw [Passing, same]
    exact ⟨differs error, differs deploying, differs failure⟩
  · contradiction

theorem announcing_passes {phases : List Phase} {program : Agent Unit}
    (always : program.Always (Announces uuid phases) fun _ => True)
    (others : ∀ phase ∈ phases, phase ≠ .error ∧ phase ≠ .deploying ∧ phase ≠ .failure) :
    program.Always Passing fun _ => True :=
  always_mono always (fun _ announces => passing_of_announces announces others) fun _ _ => trivial

theorem passing_of_stages (stages : call.Stages) : call.Passing := by
  unfold Stages at stages
  split at stages <;> first | exact not_false | contradiction

theorem percentage_passes (uuid : String) (percent : UInt8) :
    (Announcement.publish uuid .downloading (Int32.ofNat percent.toNat) none "").Always Passing
      fun _ => True :=
  announcing_passes (publish_always (.head []) ..) (by simp)

theorem staging_watches (policy : Policy) (request : Request) :
    (Staging.run policy.progressStep request.url policy.headers policy.downloadTimeout
      (fun percent =>
        Announcement.publish request.uuid .downloading (Int32.ofNat percent.toNat) none "")
      .zero).Watches policy request := by
  have stages (call : Agent.Call) : call.Stages → call.Passing := passing_of_stages
  simp only [Staging.run, Agent.slot, Agent.shared, Agent.device, Agent.log, bind_eq, ask_bind,
    done_bind, pure_eq_done]
  refine ⟨⟨?_, ?_, ?_⟩, fun download => ⟨fun impossible => impossible.elim, fun _ => ?_⟩⟩
  · rintro url headers timeout _ ⟨⟩
    exact ⟨_, rfl, fun _ => .inl rfl⟩
  · rintro milliseconds _ ⟨⟩
  · rintro event _ ⟨⟩
  · refine watches_passing (follow_always stages _ (percentage_passes request.uuid) _ _) ?_
    rintro ⟨result, progress⟩
    refine watches_ask not_false fun running => ?_
    cases running with
    | false => exact watches_ask not_false fun _ => trivial
    | true =>
        cases result with
        | error error => trivial
        | ok value => exact watches_passing (finish_always stages progress) fun _ => trivial

theorem not_deploys_of_fetches (fetches : call.Fetches uuid) : ¬ call.Deploys := by
  intro deploys
  unfold Deploys at deploys
  split at deploys
  · exact fetches
  · obtain ⟨_, phase, told, same⟩ := fetches
    rw [same] at deploys
    revert told deploys
    cases phase <;> decide
  · exact fetches
  · exact fetches
  · exact fetches
  · exact deploys

theorem lingers_of_announces (announces : call.Announces uuid [.downloading, .error]) :
    call.Lingers := by
  refine ⟨not_deploys_of_fetches (fetches_of_announces announces), ?_⟩
  rintro url headers timeout rfl
  exact announces

theorem attempt_watches (policy : Policy) (request : Request) :
    (Installation.attempt policy request).Watches policy request := by
  have logs (error : UpdateError) (record : Log.Record) :
      (.ask (.device (.log record)) fun _ => .done (.error error) :
        Agent (Except UpdateError Unit)).Watches policy request :=
    watches_ask not_false fun _ => trivial
  simp only [Installation.attempt, Agent.device, Agent.log, bind_eq, ask_bind, done_bind,
    pure_eq_done]
  refine watches_ask not_false fun erased => ?_
  cases erased with
  | error error => exact logs _ _
  | ok value =>
      refine watches_ask not_false fun opened => ?_
      cases opened with
      | error error => exact logs _ _
      | ok value =>
          refine watches_bind ?_ (staging_watches policy request) fun staged => ?_
          · have stages (call : Agent.Call) : call.Stages → call.Fetches request.uuid :=
              Agent.Call.fetches_of_stages
            exact always_mono (staging_always stages (fun _ _ _ => trivial) _ _ _ _
              (percentage_always request.uuid) _) (fun _ => not_deploys_of_fetches)
              fun _ _ => trivial
          · exact watches_ask not_false fun _ => trivial

theorem attempts_look (policy : Policy) (request : Request) (remaining number : Nat)
    (last : UpdateError) : (Installation.attempts policy request remaining number last).Looks := by
  cases remaining <;> exact .inl rfl

theorem attempts_watch (policy : Policy) (request : Request) (remaining number : Nat)
    (last : UpdateError) :
    (Installation.attempts policy request remaining number last).Watches policy request := by
  induction remaining generalizing number last with
  | zero =>
      refine watches_ask not_false fun running => ?_
      cases running <;> trivial
  | succ remaining ih =>
      simp only [Installation.attempts, Agent.slot, Agent.shared, Agent.device, Agent.log, bind_eq,
        ask_bind, done_bind, pure_eq_done]
      refine watches_ask not_false fun running => ?_
      cases running with
      | false => trivial
      | true =>
          refine watches_passing (announcing_passes (phase_always (.head [])) (by simp)) fun _ => ?_
          refine watches_bind (always_mono (attempt_always policy request)
            (fun _ => not_deploys_of_fetches) fun _ _ => trivial) (attempt_watches policy request)
            fun result => ?_
          cases result with
          | ok value => trivial
          | error error =>
              dsimp only
              split
              · -- The pause, the announcement and the warning all come before the next look.
                have looks (record : Log.Record) : Looks (.ask (.device (.log record)) fun _ =>
                    Installation.attempts policy request remaining (number + 1) error) :=
                  .inr fun _ => attempts_look policy request remaining (number + 1) error
                refine ⟨watchful_of_looks (by simp) fun _ => looks_bind fun _ => looks _, fun _ =>
                  ⟨fun impossible => impossible.elim, fun _ => ?_⟩⟩
                have lingers : (Announcement.error request.uuid .error error).Always Lingers
                    fun _ => True :=
                  always_mono (error_always (.tail _ (.head [])) error)
                    (fun _ => lingers_of_announces) fun _ holds => holds
                refine watches_before_look lingers (fun _ => looks _) fun _ => ?_
                exact watches_ask not_false fun _ => ih (number + 1) error
              · trivial

theorem saveId_passes (id : RequestId) : (Record.saveId id).Always Passing fun _ => True := by
  refine ⟨fun deploys => absurd deploys.2.1 (by decide), fun saved => ?_⟩
  exact orFail_always (fun _ => not_false) _ _ saved

theorem fetch_watches (policy : Policy) (request : Request) :
    (Installation.fetch policy request).Watches policy request := by
  simp only [Installation.fetch, Agent.log, Agent.device, bind_eq, ask_bind, done_bind,
    pure_eq_done]
  split
  · trivial
  · refine watches_passing (saveId_passes _) fun saved => ?_
    cases saved with
    | error error => exact watches_ask not_false fun _ => trivial
    | ok value => exact attempts_watch policy request _ _ _

theorem announcing_watches {α : Type} (policy : Policy) (request : Request) {phase : Phase}
    (deploys : phase = .deploying ∨ phase = .failure) (progress : Int32)
    (error : Option UpdateError) (message : String) {continuation : Unit → Agent α}
    (trailing : (continuation ()).Always Trails fun _ => True) :
    ((Announcement.publish uuid phase progress error message).bind continuation).Watches policy
      request := by
  have notifies : (Announcement.notify phase).Always Passing fun _ => True :=
    notify_always phase fun _ impossible => impossible
  simp only [Announcement.publish, Announcement.send, Agent.device, Agent.log, bind_eq, ask_bind,
    done_bind, Program.bind_assoc]
  refine watches_ask not_false fun time => ?_
  refine watches_passing notifies fun _ => ?_
  have status : phase.status = Phase.deploying.status ∨ phase.status = Phase.failure.status :=
    deploys.imp (congrArg _) (congrArg _)
  refine ⟨⟨?_, ?_, ?_⟩, fun sent => ⟨fun _ => ?_, fun undeployed => absurd status undeployed⟩⟩
  · rintro url headers timeout _ ⟨⟩
  · rintro milliseconds _ ⟨⟩
  · rintro event _ ⟨⟩ told
    have same : phase = .error := Phase.status_injective told
    rcases deploys with rfl | rfl <;> contradiction
  · cases sent with
    | ok value => exact trailing
    | error failure => exact ⟨trivial, fun _ => trailing⟩

theorem trails_of_announces {phases : List Phase} (announces : call.Announces uuid phases)
    (others : .error ∉ phases) : call.Trails := by
  unfold Announces at announces
  split at announces
  · trivial
  · trivial
  · trivial
  · obtain ⟨_, phase, told, same⟩ := announces
    intro error
    exact others (Phase.status_injective (same.symm.trans error) ▸ told)
  · contradiction

theorem announcing_trails {phases : List Phase} {program : Agent Unit}
    (always : program.Always (Announces uuid phases) fun _ => True) (others : .error ∉ phases) :
    program.Always Trails fun _ => True :=
  always_mono always (fun _ announces => trails_of_announces announces others) fun _ _ => trivial

theorem trails_of_handsOver (handsOver : call.HandsOver uuid) : call.Trails := by
  unfold HandsOver at handsOver
  split at handsOver
  · trivial
  · trivial
  · trivial
  · trivial
  · exact trails_of_announces handsOver (by simp)

theorem passing_of_concludes (concludes : call.Concludes) : call.Passing := by
  rcases concludes with clears | rfl
  · unfold Clears at clears
    split at clears
    · intro deploys
      exact absurd (clears.2.2.symm.trans deploys.2.2) (by decide)
    · exact not_false
    · exact not_false
    · contradiction
  · exact not_false

theorem trails_of_concludes (concludes : call.Concludes) : call.Trails := by
  rcases concludes with clears | rfl
  · unfold Clears at clears
    split at clears <;> trivial
  · trivial

/-- The announcement of a deployment begins it, and nothing of what follows needs to be watched. -/
theorem deploy_trails (policy : Policy) (request : Request) :
    (Installation.deploy policy request.uuid).Watches policy request ∧
      (Installation.deploy policy request.uuid).Always Trails fun _ => True := by
  simp only [Installation.deploy, Agent.log, Agent.device, bind_eq, ask_bind, done_bind,
    pure_eq_done]
  refine ⟨announcing_watches policy request (.inl rfl) _ _ _ ?trailing,
    always_bind (announcing_trails (phase_always (.head [])) (by simp)) fun _ _ => ?trailing⟩
  refine ⟨trivial, fun _ => ?_⟩
  refine always_bind (saveStage_always (fun _ => trivial) (fun _ _ => trivial) _) fun saved _ => ?_
  cases saved with
  | error error => trivial
  | ok value =>
      exact always_mono (handOver_always policy) (fun _ => trails_of_handsOver) fun _ _ => trivial

theorem execute_watches (policy : Policy) (request : Request) :
    (Installation.execute policy request).Watches policy request := by
  have saves : (Record.saveStage .inProgress).Always Passing fun _ => True :=
    ⟨fun deploys => absurd deploys.2.2 (by decide),
      fun saved => orFail_always (fun _ => not_false) _ _ saved⟩
  simp only [Installation.execute, Agent.log, Agent.device, bind_eq, ask_bind, done_bind,
    pure_eq_done]
  refine watches_passing (prepare_always (fun _ => not_false) not_false) fun prepared => ?_
  cases prepared with
  | error error => trivial
  | ok value =>
      refine watches_ask not_false fun _ => ?_
      refine watches_passing saves fun saved => ?_
      cases saved with
      | error error => trivial
      | ok value =>
          refine watches_trailing (fetch_watches policy request) ?_ ?_ <;> intro fetched
          · cases fetched with
            | error error => trivial
            | ok value => exact (deploy_trails policy request).2
          · cases fetched with
            | error error => trivial
            | ok value => exact (deploy_trails policy request).1

theorem conclude_passes (outcome : Outcome) :
    (Installation.conclude outcome).Always Passing fun _ => True :=
  always_mono (conclude_always outcome) (fun _ => passing_of_concludes) fun _ _ => trivial

theorem conclude_trails (outcome : Outcome) :
    (Installation.conclude outcome).Always Trails fun _ => True :=
  always_mono (conclude_always outcome) (fun _ => trails_of_concludes) fun _ _ => trivial

theorem run_watches (policy : Policy) (request : Request) :
    (Installation.run policy request).Watches policy request := by
  simp only [Installation.run, Agent.log, Agent.device, bind_eq, ask_bind, done_bind, pure_eq_done]
  refine watches_passing (announcing_passes (phase_always (.head [])) (by simp)) fun _ => ?_
  refine watches_ask not_false fun _ => ?_
  refine watches_trailing (execute_watches policy request) (fun result => ?_) fun result => ?_
  · split
    · trivial
    · exact ⟨trivial, fun _ => conclude_trails .canceled⟩
    · refine ⟨trivial, fun _ => ?_⟩
      refine always_bind (announcing_trails (error_always (.head []) _) (by simp)) ?_
      exact fun _ _ => conclude_trails _
  · split
    · trivial
    · exact watches_ask not_false fun _ =>
        watches_of_passing (conclude_passes .canceled)
    · refine watches_ask not_false fun _ => ?_
      exact announcing_watches policy request (.inr rfl) _ _ _ (conclude_trails _)

end Installing

end DualBank
