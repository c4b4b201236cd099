import DualBank.Proofs.Cancellation
import DualBank.Proofs.Demands

/-! What an installation still does once a look told it to stop: it lets the download come to its
end without taking anything of it, and puts itself away as canceled. -/

namespace DualBank

open Program Surroundings Cancellation Scene
open Happening (look)

namespace Agent.Call

abbrev Blind (call : Agent.Call) : Prop :=
  call ≠ .shared (.slot .isRunning)

def Subsides : Agent.Call → Prop
  | .device (.source _) | .device .closeWriter | .shared (.slot .isRunning) => True
  | call => call.Concludes

variable {call : Agent.Call}

theorem subsides_of_concludes (concludes : call.Concludes) : call.Subsides := by
  unfold Subsides
  split <;> trivial

end Agent.Call

open Agent.Call

namespace Program

variable {α β : Type}

def Subsiding (post : α → Prop) : Agent α → Prop
  | .done value => post value
  | .ask call next => call.Subsides ∧
      ∀ reply, Happening.exchange call reply ≠ look true → (next reply).Subsiding post

def Heeds (post : α → Prop) : Agent α → Prop
  | .done _ => True
  | .ask call next => ∀ reply,
      (Happening.exchange call reply = look false → (next reply).Subsiding post) ∧
      (Happening.exchange call reply ≠ look false → (next reply).Heeds post)

variable {between : α → Prop} {post : β → Prop} {program : Agent α} {continuation : α → Agent β}

theorem subsiding_bind (first : program.Subsiding between)
    (second : ∀ value, between value → (continuation value).Subsiding post) :
    (program.bind continuation).Subsiding post := by
  induction program with
  | done value => exact second value first
  | ask call next ih => exact ⟨first.1, fun reply told => ih reply (first.2 reply told)⟩

theorem subsiding_of_always {post : α → Prop} (always : program.Always Subsides post) :
    program.Subsiding post := by
  induction program with
  | done value => exact always
  | ask call next ih => exact ⟨always.1, fun reply _ => ih reply (always.2 reply)⟩

theorem heeds_bind (first : program.Heeds between)
    (stopped : ∀ value, between value → (continuation value).Subsiding post)
    (onward : ∀ value, (continuation value).Heeds post) :
    (program.bind continuation).Heeds post := by
  induction program with
  | done value => exact onward value
  | ask call next ih =>
      intro reply
      refine ⟨fun told => subsiding_bind ((first reply).1 told) stopped, fun untold => ?_⟩
      exact ih reply ((first reply).2 untold)

theorem heeds_ask {post : α → Prop} {call : Agent.Call} {next : Agent.Reply call → Agent α}
    (blind : call.Blind) (onward : ∀ reply, (next reply).Heeds post) :
    (ask call next : Agent α).Heeds post := by
  refine fun reply => ⟨fun told => ?_, fun _ => onward reply⟩
  cases told
  exact absurd rfl blind

theorem heeds_look {post : α → Prop} {next : Bool → Agent α} (told : (next false).Subsiding post)
    (onward : (next true).Heeds post) :
    (ask (.shared (.slot .isRunning)) next : Agent α).Heeds post := by
  intro running
  cases running with
  | false => exact ⟨fun _ => told, fun other => absurd rfl other⟩
  | true => exact ⟨fun impossible => (by cases impossible), fun _ => onward⟩

theorem heeds_of_blind {post condition : α → Prop}
    (blind : program.Always Blind condition) : program.Heeds post := by
  induction program with
  | done value => trivial
  | ask call next ih => exact heeds_ask blind.1 fun reply => ih reply (blind.2 reply)

/-- Nothing stops in a program that does not look. -/
theorem heeds_blind_bind {condition : α → Prop}
    (blind : program.Always Blind condition)
    (onward : ∀ value, (continuation value).Heeds post) :
    (program.bind continuation).Heeds post := by
  have first : program.Heeds fun _ => False := heeds_of_blind blind
  exact heeds_bind first (fun _ impossible => impossible.elim) onward

end Program

section Installing

theorem heeds_announcing {α : Type} {uuid : String} {phases : List Phase} {program : Agent Unit}
    {post : α → Prop} {continuation : Unit → Agent α}
    (always : program.Always (Announces uuid phases) fun _ => True)
    (onward : ∀ value, (continuation value).Heeds post) :
    (program.bind continuation).Heeds post :=
  heeds_blind_bind (always_mono always (fun _ => not_look_of_announces) fun _ holds => holds) onward

theorem handle_heeds (step : UInt8) (progress : Progress) (chunk : Chunk) :
    (Staging.handle step progress chunk).Heeds (·.1 = .error .canceled) := by
  simp only [Staging.handle, Agent.slot, Agent.shared, Agent.device, Agent.log, bind_eq, ask_bind,
    done_bind, pure_eq_done]
  refine heeds_look rfl (heeds_ask (by simp) fun written => ?_)
  cases written with
  | error error => exact heeds_ask (by simp) fun _ => trivial
  | ok written =>
      dsimp only
      split
      · trivial
      · exact heeds_ask (by simp) fun _ => trivial

theorem handle_subsides (step : UInt8) (progress : Progress) (chunk : Chunk) :
    (Staging.handle step progress chunk).Subsiding (·.1 = .error .canceled) := by
  simp only [Staging.handle, Agent.slot, Agent.shared, Agent.device, Agent.log, bind_eq, ask_bind,
    done_bind, pure_eq_done]
  refine ⟨trivial, fun running told => ?_⟩
  cases running with
  | false => exact rfl
  | true => exact absurd rfl told

section Following

variable (step : UInt8) {report : UInt8 → Agent Unit}

/-- A download that goes on although it was told to stop, is followed to its end. -/
theorem follow_subsides (download : Download) (progress : Progress) :
    (Staging.follow step report download progress).Subsiding fun _ => True := by
  induction download generalizing progress with
  | done result => trivial
  | ask call next ih =>
      cases call with
      | source call => exact ⟨trivial, fun reply _ => ih reply progress⟩
      | deliver chunk =>
          rw [Staging.follow]
          refine subsiding_bind (handle_subsides step progress chunk) ?_
          rintro ⟨answer, progress⟩ rfl
          exact ih _ progress

theorem follow_heeds (reports : ∀ percent, (report percent).Always Blind fun _ => True)
    (download : Download) (progress : Progress) :
    (Staging.follow step report download progress).Heeds fun _ => True := by
  induction download generalizing progress with
  | done result => trivial
  | ask call next ih =>
      cases call with
      | source call => exact heeds_ask (by simp) fun reply => ih reply progress
      | deliver chunk =>
          rw [Staging.follow]
          refine heeds_bind (handle_heeds step progress chunk) ?_ ?_
          · rintro ⟨answer, progress⟩ rfl
            exact follow_subsides step _ progress
          · rintro ⟨answer, progress⟩
            cases answer with
            | error error => exact ih _ progress
            | ok told =>
                cases told with
                | none => exact ih _ progress
                | some percent => exact heeds_blind_bind (reports percent) fun _ => ih _ progress

theorem staging_heeds (url : String) (headers : List (String × String)) (timeout : UInt64)
    (reports : ∀ percent, (report percent).Always Blind fun _ => True) (progress : Progress) :
    (Staging.run step url headers timeout report progress).Heeds (·.1 = .error .canceled) := by
  have finishes (progress : Progress) : (Staging.finish progress).Always Blind fun _ => True := by
    rw [Staging.finish]
    split
    · exact ⟨by simp, fun _ => trivial⟩
    · trivial
  simp only [Staging.run, Agent.slot, Agent.shared, Agent.device, Agent.log, bind_eq, ask_bind,
    done_bind, pure_eq_done]
  refine heeds_ask (by simp) fun download => ?_
  refine heeds_bind (follow_heeds step reports download progress) ?_ ?_
  · rintro ⟨result, progress⟩ _
    refine ⟨trivial, fun running told => ?_⟩
    cases running with
    | false => exact ⟨.inl trivial, fun _ _ => rfl⟩
    | true => exact absurd rfl told
  · rintro ⟨result, progress⟩
    refine heeds_look ⟨.inl trivial, fun _ _ => rfl⟩ ?_
    cases result with
    | error error => trivial
    | ok value => exact heeds_blind_bind (finishes progress) fun _ => trivial

end Following

theorem percentage_blind (uuid : String) (percent : UInt8) :
    (Announcement.publish uuid .downloading (Int32.ofNat percent.toNat) none "").Always Blind
      fun _ => True :=
  always_mono (publish_always (.head []) ..) (fun _ => not_look_of_announces) fun _ _ => trivial

theorem attempt_heeds (policy : Policy) (request : Request) :
    (Installation.attempt policy request).Heeds (· = .error .canceled) := by
  simp only [Installation.attempt, Agent.device, Agent.log, bind_eq, ask_bind, done_bind,
    pure_eq_done]
  refine heeds_ask (by simp) fun erased => ?_
  cases erased with
  | error error => exact heeds_ask (by simp) fun _ => trivial
  | ok value =>
      refine heeds_ask (by simp) fun opened => ?_
      cases opened with
      | error error => exact heeds_ask (by simp) fun _ => trivial
      | ok value =>
          refine heeds_bind (staging_heeds _ _ _ _ (percentage_blind request.uuid) _) ?_ ?_
          · rintro ⟨result, progress⟩ rfl
            exact ⟨trivial, fun _ _ => rfl⟩
          · exact fun _ => heeds_ask (by simp) fun _ => trivial

theorem attempts_heed (policy : Policy) (request : Request) (remaining number : Nat)
    (last : UpdateError) :
    (Installation.attempts policy request remaining number last).Heeds (· = .error .canceled) := by
  induction remaining generalizing number last with
  | zero => exact heeds_look rfl trivial
  | succ remaining ih =>
      simp only [Installation.attempts, Agent.slot, Agent.shared, Agent.device, Agent.log, bind_eq,
        ask_bind, done_bind, pure_eq_done]
      refine heeds_look rfl ?_
      refine heeds_announcing (phase_always (.head [])) fun _ => ?_
      refine heeds_bind (attempt_heeds policy request) ?_ ?_
      · rintro result rfl
        exact rfl
      · intro result
        cases result with
        | ok value => trivial
        | error error =>
            dsimp only
            split
            · refine heeds_ask (by simp) fun _ => ?_
              refine heeds_announcing (error_always (.head []) error) fun _ => ?_
              exact heeds_ask (by simp) fun _ => ih (number + 1) error
            · trivial

theorem fetch_heeds (policy : Policy) (request : Request) :
    (Installation.fetch policy request).Heeds (· = .error .canceled) := by
  simp only [Installation.fetch, Agent.log, Agent.device, bind_eq, ask_bind, done_bind,
    pure_eq_done]
  split
  · trivial
  · refine heeds_blind_bind (saveId_always (by simp) (by simp) _) fun saved => ?_
    cases saved with
    | error error => exact heeds_ask (by simp) fun _ => trivial
    | ok value => exact attempts_heed policy request _ _ _

theorem execute_heeds (policy : Policy) (request : Request) :
    (Installation.execute policy request).Heeds (· = .error .canceled) := by
  simp only [Installation.execute, Agent.log, Agent.device, bind_eq, ask_bind, done_bind,
    pure_eq_done]
  refine heeds_blind_bind (prepare_always (by simp) (by simp)) fun prepared => ?_
  cases prepared with
  | error error => trivial
  | ok value =>
      refine heeds_ask (by simp) fun _ => ?_
      refine heeds_blind_bind (saveStage_always (by simp) (by simp) _) fun saved => ?_
      cases saved with
      | error error => trivial
      | ok value =>
          refine heeds_bind (fetch_heeds policy request) ?_ ?_
          · rintro fetched rfl
            exact rfl
          · intro fetched
            cases fetched with
            | error error => trivial
            | ok value => exact heeds_of_blind (deploy_always policy request.uuid)

theorem run_heeds (policy : Policy) (request : Request) :
    (Installation.run policy request).Heeds (· = .canceled) := by
  have concludes (outcome : Outcome) :
      (Installation.conclude outcome).Always Blind fun _ => True :=
    always_mono (conclude_always outcome) (fun _ => not_look_of_concludes) fun _ _ => trivial
  simp only [Installation.run, Agent.log, Agent.device, bind_eq, ask_bind, done_bind, pure_eq_done]
  refine heeds_announcing (phase_always (.head [])) fun _ => ?_
  refine heeds_ask (by simp) fun _ => ?_
  refine heeds_bind (execute_heeds policy request) ?_ ?_
  · rintro result rfl
    refine ⟨.inl trivial, fun _ _ => subsiding_of_always ?_⟩
    exact always_mono (conclude_always .canceled) (fun _ => subsides_of_concludes)
      fun _ holds => holds
  · intro result
    split
    · trivial
    · exact heeds_ask (by simp) fun _ => heeds_of_blind (concludes .canceled)
    · refine heeds_ask (by simp) fun _ => ?_
      refine heeds_announcing (error_always (.head []) _) fun _ => ?_
      exact heeds_of_blind (concludes _)

end Installing

end DualBank
