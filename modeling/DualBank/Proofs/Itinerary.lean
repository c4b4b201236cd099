import DualBank.Proofs.Footprint

/-! The way of an installation through its parts, in any surroundings. What an attempt, the
announcement of the deployment, the handing over and the end come to decides what a whole run comes
to, as long as the calls beside them change nothing. -/

namespace DualBank

open Program Surroundings

namespace Agent.Call

def Aside (uuid : String) : Agent.Call → Prop
  | .device .initSettings | .device (.save ..) | .device (.delete ..) | .device (.sleep _)
  | .shared (.slot .isRunning) => True
  | call => call.Announces uuid [.acknowledged, .downloading, .error, .failure]

variable {uuid : String} {call : Agent.Call}

theorem aside_of_announces {phases : List Phase} (announces : call.Announces uuid phases)
    (among : phases ⊆ [.acknowledged, .downloading, .error, .failure]) : call.Aside uuid := by
  unfold Announces at announces
  split at announces
  · trivial
  · trivial
  · trivial
  · obtain ⟨same, phase, told, status⟩ := announces
    exact ⟨same, phase, among told, status⟩
  · contradiction

theorem aside_of_clears (clears : call.Clears) : call.Aside uuid := by
  unfold Clears at clears
  split at clears <;> trivial

theorem aside_log (record : Log.Record) : Aside uuid (.device (.log record)) :=
  trivial

theorem aside_save (key : String) (value : Bytes) :
    Aside uuid (.device (.save Record.space key value)) :=
  trivial

end Agent.Call

open Agent.Call

/-- What holds where on the way: `ready` before an attempt, `staged` after one that succeeded,
`told` from the announcement of the deployment to the handing over, and `stuck` where it only
remains to give up. -/
structure Itinerary (surroundings : Surroundings Agent.interface)
    (guard : Agent.Call → surroundings.State → Prop) (policy : Policy) (request : Request)
    (ready staged told stuck restarting finished : surroundings.State → Prop) : Prop where
  ready_withstands : Withstands surroundings guard (Aside request.uuid) ready
  told_withstands : Withstands surroundings guard (Aside request.uuid) told
  stuck_withstands : Withstands surroundings guard (Aside request.uuid) stuck
  stuck_of_ready : ∀ state, ready state → stuck state
  stuck_of_told : ∀ state, told state → stuck state
  stable_staged : surroundings.Stable staged
  stable_restarting : surroundings.Stable restarting
  stable_finished : surroundings.Stable finished
  attempt : ∀ state, ready state → surroundings.Ensures guard
    (fun result later => match result with | .ok () => staged later | .error _ => ready later)
    (Installation.attempt policy request) state
  deploying : ∀ state, staged state → surroundings.Ensures guard (fun _ later => told later)
    (Announcement.phase request.uuid .deploying) state
  handOver : ∀ state, told state → surroundings.Ensures guard
    (fun result later => match result with | .ok () => restarting later | .error _ => stuck later)
    (Installation.handOver policy request.uuid) state
  finish : ∀ state, stuck state → surroundings.Ensures guard (fun _ later => finished later)
    (Agent.slot .finish) state

namespace Itinerary

variable {surroundings : Surroundings Agent.interface}
  {guard : Agent.Call → surroundings.State → Prop} {policy : Policy} {request : Request}
  {ready staged told stuck restarting finished : surroundings.State → Prop}
  (way : Itinerary surroundings guard policy request ready staged told stuck restarting finished)
include way

theorem attempts_ensures (remaining number : Nat) (last : UpdateError)
    {state : surroundings.State} (holds : ready state) :
    surroundings.Ensures guard
      (fun result later => match result with | .ok () => staged later | .error _ => ready later)
      (Installation.attempts policy request remaining number last) state := by
  have halts (error : UpdateError) {later : surroundings.State} (holds : ready later) :
      surroundings.Ensures guard
        (fun (result : Except UpdateError Unit) later =>
          match result with | .ok () => staged later | .error _ => ready later)
        (.done (.error error)) later :=
    ensures_done way.ready_withstands.stable holds fun _ holds => holds
  induction remaining generalizing number last state with
  | zero =>
      refine way.ready_withstands.ensures_ask (.shared (.slot .isRunning)) trivial holds ?_
      intro running later holds
      cases running with
      | false => exact halts .canceled holds
      | true => exact halts last holds
  | succ remaining ih =>
      simp only [Installation.attempts, Agent.slot, Agent.shared, Agent.device, Agent.log, bind_eq,
        ask_bind, done_bind, pure_eq_done]
      refine way.ready_withstands.ensures_ask (.shared (.slot .isRunning)) trivial holds ?_
      intro running later holds
      cases running with
      | false => exact halts .canceled holds
      | true =>
          refine ensures_bind (way.ready_withstands.ensures (phase_always (.head []))
            (fun _ announces => aside_of_announces announces (by simp)) holds) ?_
          intro _ later ended
          refine ensures_bind (way.attempt later ended.2) ?_
          intro result later reached
          cases result with
          | ok value => exact ensures_done way.stable_staged reached fun _ holds => holds
          | error error =>
              dsimp only
              split
              · refine way.ready_withstands.ensures_ask (.device (.sleep _)) trivial
                  reached ?_
                intro _ later holds
                refine ensures_bind (way.ready_withstands.ensures (error_always (.head []) error)
                  (fun _ announces => aside_of_announces announces (by simp)) holds) ?_
                intro _ later ended
                refine way.ready_withstands.ensures_ask _ (aside_log _) ended.2 ?_
                exact fun _ later holds => ih (number + 1) error holds
              · exact halts error reached

theorem fetch_ensures {state : surroundings.State} (holds : ready state) :
    surroundings.Ensures guard
      (fun result later => match result with | .ok () => staged later | .error _ => ready later)
      (Installation.fetch policy request) state := by
  simp only [Installation.fetch, Agent.log, Agent.device, bind_eq, ask_bind, done_bind,
    pure_eq_done]
  split
  · exact ensures_done way.ready_withstands.stable holds fun _ holds => holds
  · refine ensures_bind (way.ready_withstands.ensures (saveId_always aside_log aside_save _)
      (fun _ aside => aside) holds) ?_
    intro saved later ended
    cases saved with
    | error error =>
        refine way.ready_withstands.ensures_ask _ (aside_log _) ended.2 ?_
        intro _ later holds
        exact ensures_done way.ready_withstands.stable holds fun _ holds => holds
    | ok value => exact way.attempts_ensures _ _ _ ended.2

theorem deploy_ensures {state : surroundings.State} (holds : staged state) :
    surroundings.Ensures guard
      (fun result later => match result with | .ok () => restarting later | .error _ => stuck later)
      (Installation.deploy policy request.uuid) state := by
  simp only [Installation.deploy, Agent.log, Agent.device, bind_eq, ask_bind, done_bind,
    pure_eq_done]
  refine ensures_bind (way.deploying state holds) ?_
  intro _ later holds
  refine way.told_withstands.ensures_ask _ (aside_log _) holds ?_
  intro _ later holds
  refine ensures_bind (way.told_withstands.ensures (saveStage_always aside_log aside_save _)
    (fun _ aside => aside) holds) ?_
  intro saved later ended
  cases saved with
  | error error =>
      exact ensures_done way.told_withstands.stable ended.2 fun later holds =>
        way.stuck_of_told later holds
  | ok value => exact way.handOver later ended.2

theorem execute_ensures {state : surroundings.State} (holds : ready state) :
    surroundings.Ensures guard
      (fun result later => match result with | .ok () => restarting later | .error _ => stuck later)
      (Installation.execute policy request) state := by
  simp only [Installation.execute, Agent.log, Agent.device, bind_eq, ask_bind, done_bind,
    pure_eq_done]
  have halts (error : UpdateError) {later : surroundings.State} (holds : ready later) :
      surroundings.Ensures guard
        (fun (result : Except UpdateError Unit) later =>
          match result with | .ok () => restarting later | .error _ => stuck later)
        (.done (.error error)) later :=
    ensures_done way.ready_withstands.stable holds fun later holds => way.stuck_of_ready later holds
  refine ensures_bind (way.ready_withstands.ensures (prepare_always aside_log trivial)
    (fun _ aside => aside) holds) ?_
  intro prepared later ended
  cases prepared with
  | error error => exact halts _ ended.2
  | ok value =>
      refine way.ready_withstands.ensures_ask _ (aside_log _) ended.2 ?_
      intro _ later holds
      refine ensures_bind (way.ready_withstands.ensures (saveStage_always aside_log aside_save _)
        (fun _ aside => aside) holds) ?_
      intro saved later ended
      cases saved with
      | error error => exact halts _ ended.2
      | ok value =>
          refine ensures_bind (way.fetch_ensures ended.2) ?_
          intro fetched later reached
          cases fetched with
          | error error => exact halts _ reached
          | ok value => exact way.deploy_ensures reached

theorem conclude_ensures (outcome : Outcome) {state : surroundings.State} (holds : stuck state) :
    surroundings.Ensures guard (fun value later => value = outcome ∧ finished later)
      (Installation.conclude outcome) state := by
  have ends {later : surroundings.State} (holds : stuck later) :
      surroundings.Ensures guard (fun value later => value = outcome ∧ finished later)
        ((Agent.slot .finish).bind fun _ => .done outcome) later := by
    refine ensures_bind (way.finish later holds) ?_
    intro _ later holds
    exact ensures_done way.stable_finished holds fun _ holds => ⟨rfl, holds⟩
  simp only [Installation.conclude, discard_eq_bind, Agent.log, Agent.device, bind_eq, ask_bind,
    done_bind, pure_eq_done]
  refine ensures_bind
    (way.stuck_withstands.ensures reset_always (fun _ => aside_of_clears) holds) ?_
  intro result later ended
  cases result with
  | ok value => exact ends ended.2
  | error error =>
      exact way.stuck_withstands.ensures_ask _ (aside_log _) ended.2 fun _ _ holds => ends holds

/-- A run leaves the device to its restart, or gives up and then has freed its slot. -/
theorem run_ensures {state : surroundings.State} (holds : ready state) :
    surroundings.Ensures guard
      (fun outcome later => match outcome with
        | .rebooting => restarting later
        | .canceled | .failed _ => finished later)
      (Installation.run policy request) state := by
  simp only [Installation.run, Agent.log, Agent.device, bind_eq, ask_bind, done_bind, pure_eq_done]
  refine ensures_bind (way.ready_withstands.ensures (phase_always (.head []))
    (fun _ announces => aside_of_announces announces (by simp)) holds) ?_
  intro _ later ended
  refine way.ready_withstands.ensures_ask _ (aside_log _) ended.2 ?_
  intro _ later holds
  refine ensures_bind (way.execute_ensures holds) ?_
  intro result later reached
  split
  · exact ensures_done way.stable_restarting reached fun _ holds => holds
  · refine way.stuck_withstands.ensures_ask _ (aside_log _) reached ?_
    intro _ later holds
    refine ensures_mono (way.conclude_ensures .canceled holds) ?_
    rintro outcome later ⟨rfl, holds⟩
    exact holds
  · rename_i error _
    refine way.stuck_withstands.ensures_ask _ (aside_log _) reached ?_
    intro _ later holds
    refine ensures_bind (way.stuck_withstands.ensures (error_always (.head []) error)
      (fun _ announces => aside_of_announces announces (by simp)) holds) ?_
    intro _ later ended
    refine ensures_mono (way.conclude_ensures (.failed error) ended.2) ?_
    rintro outcome later ⟨rfl, holds⟩
    exact holds

end Itinerary

end DualBank
