import DualBank.Proofs.Recording
import DualBank.Proofs.Trial

/-! The record of an update is ahead of what it stands for: before a bank is touched it says that
the update is in progress, and before the bootloader or the system hears of it, that a restart is
due, and both times whose update it is. -/

namespace DualBank

open Program Surroundings Scene SettingsTable

namespace Happening

def stageSaved (stage : Stage) : Happening :=
  .exchange (.device (.save Record.space Record.stageKey [stage.byte])) (.ok ())

def idSaved (id : RequestId) : Happening :=
  .exchange (.device (.save Record.space Record.idKey id.encode)) (.ok ())

end Happening

open Happening (stageSaved idSaved)

abbrev Scene.Recorded (stage : Stage) (id : RequestId) (scene : Scene) : Prop :=
  scene.Holds (fun settings => settings.record = ⟨stage, some id⟩) [stageSaved stage, idSaved id]

def Agent.Call.Guarded (id : RequestId) : Agent.Call → Scene → Prop
  | .device (.erase _), scene | .device (.openWriter _), scene | .device (.write ..), scene =>
      scene.Recorded .inProgress id
  | .device (.readHeader _), scene | .device .requestTest, scene | .device .restart, scene =>
      scene.Recorded .pendingReboot id
  | _, _ => True

open Agent.Call

variable {id : RequestId}

section Footprints

variable {uuid : String} {call : Agent.Call}

theorem guarded_of_announces {phases : List Phase} (announces : call.Announces uuid phases)
    (scene : Scene) : call.Guarded id scene := by
  unfold Announces at announces
  split at announces <;> trivial

theorem guarded_of_fetches {scene : Scene} (fetches : call.Fetches uuid)
    (recorded : scene.Recorded .inProgress id) : call.Guarded id scene := by
  unfold Fetches at fetches
  split at fetches <;>
    first | exact recorded | trivial | exact guarded_of_announces fetches scene

theorem guarded_of_handsOver {scene : Scene} (handsOver : call.HandsOver uuid)
    (recorded : scene.Recorded .pendingReboot id) : call.Guarded id scene := by
  unfold HandsOver at handsOver
  split at handsOver <;>
    first | exact recorded | trivial | exact guarded_of_announces handsOver scene

theorem guarded_of_concludes (concludes : call.Concludes) (scene : Scene) :
    call.Guarded id scene := by
  rcases concludes with clears | rfl
  · unfold Clears at clears
    split at clears <;> trivial
  · trivial

end Footprints

section Steps

theorem rests_guarded (assertion : SettingsTable → Prop) (past : List Happening) :
    Rests surroundings (Guarded id) (Holds assertion past) where
  stable := stable_holds
  logs _ := keeps_holds (fun impossible => impossible)
  guarded _ _ _ := trivial

theorem ensures_announcement {α : Type} {uuid : String} {phases : List Phase}
    {assertion : SettingsTable → Prop} {past : List Happening} {program : Agent Unit}
    {continuation : Unit → Agent α} {scene : Scene} {post : α → Scene → Prop}
    (always : program.Always (Announces uuid phases) fun _ => True)
    (holds : scene.Holds assertion past)
    (onward : ∀ later : Scene, later.Holds assertion past →
      surroundings.Ensures (Guarded id) post (continuation ()) later) :
    surroundings.Ensures (Guarded id) post (program.bind continuation) scene := by
  refine ensures_bind (ensures_always always stable_holds (fun _ announces => ?_)
    (fun _ later announces _ => guarded_of_announces announces later) holds) ?_
  · exact keeps_holds (not_stores_of_announces announces)
  · exact fun _ later still => onward later still.2

theorem prepare_ensures (id : RequestId) {assertion : SettingsTable → Prop}
    {past : List Happening} {scene : Scene} (holds : scene.Holds assertion past) :
    surroundings.Ensures (Guarded id)
      (Settled .init (Holds assertion past) (Holds assertion past)) Record.prepare scene := by
  have rests : Rests surroundings (Guarded id) (Holds assertion past) := rests_guarded _ _
  have kept : surroundings.Keeps (Holds assertion past) (.device .initSettings) :=
    keeps_holds (fun impossible => impossible)
  exact ensures_stored .initSettings (fun reply => reply) rests.stable (fun _ _ => trivial) rests
    rests (fun before reply after _ still answers _ => kept before reply after answers still)
    (fun before reply after _ still answers _ => kept before reply after answers still) holds

theorem saveStage_ensures (id : RequestId) (stage : Stage) (assertion reached : Record → Prop)
    {past : List Happening} {scene : Scene}
    (leads : ∀ record, assertion record → reached ⟨stage, record.id⟩)
    (holds : scene.Holds (fun settings => assertion settings.record) past) :
    surroundings.Ensures (Guarded id)
      (Settled .save (Holds (fun settings => reached settings.record) (stageSaved stage :: past))
        (Holds (fun settings => assertion settings.record) past))
      (Record.saveStage stage) scene := by
  refine ensures_stored (.save Record.space Record.stageKey [stage.byte]) (fun reply => reply)
    stable_holds (fun _ _ => trivial) (rests_guarded _ _) (rests_guarded _ _) ?_ ?_ holds
  · rintro before reply after value holds ⟨settings, answered, rfl⟩ rfl
    have saved : settings = before.settings.save Record.space Record.stageKey [stage.byte] :=
      answered
    subst saved
    refine ⟨?_, List.cons_subset.2 ⟨by simp [stageSaved], ?_⟩⟩
    · dsimp only
      rw [record_save_stage]
      exact leads _ holds.1
    · exact List.Subset.trans holds.2 (List.subset_append_left _ _)
  · rintro before reply after failure holds ⟨settings, answered, rfl⟩ rfl
    have same : settings = before.settings := answered
    subst same
    exact ⟨holds.1, List.Subset.trans holds.2 (List.subset_append_left _ _)⟩

theorem saveId_ensures (noZero : ∀ byte ∈ Bytes.ofText id.text, byte ≠ 0) {scene : Scene}
    (marked : scene.Holds (fun settings => settings.record.stage = .inProgress)
      [stageSaved .inProgress]) :
    surroundings.Ensures (Guarded id)
      (Settled .save (Recorded .inProgress id) (Holds (fun _ => True) []))
      (Record.saveId id) scene := by
  refine ensures_stored (.save Record.space Record.idKey id.encode) (fun reply => reply)
    stable_holds (fun _ _ => trivial) (rests_guarded _ _) (rests_guarded _ _) ?_ ?_ marked
  · rintro before reply after value marked ⟨settings, answered, rfl⟩ rfl
    have saved : settings = before.settings.save Record.space Record.idKey id.encode := answered
    subst saved
    refine ⟨?_, List.cons_subset.2 ⟨?_, List.cons_subset.2 ⟨by simp [idSaved], ?_⟩⟩⟩
    · dsimp only
      rw [record_save_id _ _ noZero, marked.1]
    · exact List.mem_append_left _ (marked.2 (.head _))
    · exact List.nil_subset _
  · exact fun _ _ _ _ _ _ _ => ⟨trivial, List.nil_subset _⟩

end Steps

section Stages

theorem fetch_ensures {uuid : String} (known : RequestId.ofText? uuid = some id)
    (noZero : ∀ byte ∈ Bytes.ofText id.text, byte ≠ 0) (policy : Policy) (url : String)
    {scene : Scene} (marked : scene.Holds (fun settings => settings.record.stage = .inProgress)
      [stageSaved .inProgress]) :
    surroundings.Ensures (Guarded id)
      (fun result later => result = .ok () → later.Recorded .inProgress id)
      (Installation.fetch policy ⟨uuid, url⟩) scene := by
  simp only [Installation.fetch, known, Agent.log, Agent.device, bind_eq, ask_bind, done_bind,
    pure_eq_done]
  refine ensures_bind (saveId_ensures noZero marked) ?_
  intro result later settled
  cases result with
  | error error =>
      refine ensures_log (rests_guarded _ _) _ settled.2 ?_
      intro last _ _ _ success
      simp at success
  | ok value =>
      refine ensures_mono (ensures_always (attempts_always policy _ _ _ _) stable_holds
        (fun _ fetches => keeps_holds (not_stores_of_fetches fetches))
        (fun _ _ => guarded_of_fetches) settled) ?_
      exact fun _ _ ended _ => ended.2

theorem deploy_ensures (policy : Policy) (uuid : String) {scene : Scene}
    (recorded : scene.Recorded .inProgress id) :
    surroundings.Ensures (Guarded id)
      (fun result later => result = .ok () → later.Recorded .pendingReboot id)
      (Installation.deploy policy uuid) scene := by
  simp only [Installation.deploy, Agent.log, Agent.device, bind_eq, ask_bind, done_bind,
    pure_eq_done]
  refine ensures_announcement (phase_always (.head [])) recorded ?_
  intro scene recorded
  refine ensures_log (rests_guarded _ _) _ recorded ?_
  intro scene recorded
  refine ensures_bind (saveStage_ensures id .pendingReboot (· = ⟨.inProgress, some id⟩)
    (· = ⟨.pendingReboot, some id⟩) (by rintro record rfl; rfl) recorded) ?_
  intro result later settled
  cases result with
  | error error => exact fun _ _ impossible => by cases impossible
  | ok value =>
      have pending : later.Recorded .pendingReboot id := by
        refine ⟨settled.1, List.cons_subset.2 ⟨settled.2 (.head _), ?_⟩⟩
        exact List.cons_subset.2 ⟨settled.2 (.tail _ (.tail _ (.head _))), List.nil_subset _⟩
      refine ensures_mono (ensures_always (handOver_always policy) stable_holds
        (fun _ handsOver => keeps_holds (not_stores_of_handsOver handsOver))
        (fun _ _ => guarded_of_handsOver) pending) ?_
      exact fun _ _ ended _ => ended.2

theorem execute_ensures {request : Request} (known : RequestId.ofText? request.uuid = some id)
    (noZero : ∀ byte ∈ Bytes.ofText id.text, byte ≠ 0) (policy : Policy) {scene : Scene} :
    surroundings.Ensures (Guarded id)
      (fun result later => result = .ok () → later.Recorded .pendingReboot id)
      (Installation.execute policy request) scene := by
  simp only [Installation.execute, Agent.log, Agent.device, bind_eq, ask_bind, done_bind,
    pure_eq_done]
  refine ensures_bind (prepare_ensures id (holds_nothing scene)) ?_
  intro prepared later ready
  cases prepared with
  | error error => exact fun _ _ impossible => by cases impossible
  | ok value =>
      refine ensures_log (rests_guarded (fun _ => True) []) _ ready ?_
      intro later ready
      refine ensures_bind (saveStage_ensures id .inProgress (fun _ => True)
        (·.stage = .inProgress) (fun _ _ => rfl) ready) ?_
      intro result later settled
      cases result with
      | error error => exact fun _ _ impossible => by cases impossible
      | ok value =>
          refine ensures_bind (fetch_ensures known noZero policy request.url settled) ?_
          intro fetched later recorded
          cases fetched with
          | error error => exact fun _ _ impossible => by cases impossible
          | ok value => exact deploy_ensures policy request.uuid (recorded rfl)

theorem conclude_ensures (outcome : Outcome) (scene : Scene) :
    surroundings.Ensures (Guarded id) (fun result _ => result = outcome)
      (Installation.conclude outcome) scene := by
  have stable : surroundings.Stable fun _ => True := fun _ _ _ _ => trivial
  refine ensures_mono (ensures_always (conclude_always outcome) stable
    (fun _ _ _ _ _ _ _ => trivial) (fun _ later concludes _ => guarded_of_concludes concludes later)
    trivial) ?_
  exact fun _ _ ended => ended.1

theorem installation_ensures {request : Request}
    (known : RequestId.ofText? request.uuid = some id)
    (noZero : ∀ byte ∈ Bytes.ofText id.text, byte ≠ 0) (policy : Policy) (scene : Scene) :
    surroundings.Ensures (Guarded id)
      (fun outcome later => outcome = .rebooting → later.Recorded .pendingReboot id)
      (Installation.run policy request) scene := by
  have concludes {outcome : Outcome} (other : outcome ≠ .rebooting) (scene : Scene) :
      surroundings.Ensures (Guarded id)
        (fun outcome later => outcome = .rebooting → later.Recorded .pendingReboot id)
        (Installation.conclude outcome) scene := by
    refine ensures_mono (conclude_ensures outcome scene) ?_
    rintro result later rfl restarted
    contradiction
  simp only [Installation.run, Agent.log, Agent.device, bind_eq, ask_bind, done_bind,
    pure_eq_done]
  refine ensures_announcement (phase_always (.head [])) (holds_nothing scene) ?_
  intro later ready
  refine ensures_log (rests_guarded _ _) _ ready ?_
  intro later ready
  refine ensures_bind (execute_ensures known noZero policy) ?_
  intro result later recorded
  split
  · exact ensures_done stable_holds (recorded rfl) fun _ recorded _ => recorded
  · refine ensures_log (rests_guarded _ _) _ (holds_nothing later) ?_
    intro later _
    exact concludes (by simp) later
  · refine ensures_log (rests_guarded _ _) _ (holds_nothing later) ?_
    intro later ready
    refine ensures_announcement (error_always (.head []) _) ready ?_
    intro later _
    exact concludes (by simp) later

end Stages

/-- Write-ahead: at whatever call a run has arrived, the record that guards the call is stored. -/
theorem calls_guarded (policy : Policy) (request : Request) (valid : request.check = .ok ())
    (settings : SettingsTable) :
    ∃ id : RequestId, id.text = request.uuid ∧
      ∀ (call : Agent.Call) (next : Agent.Reply call → Agent Outcome) (scene : Scene),
        surroundings.Leads (Installation.run policy request, opening settings)
          (.ask call next, scene) → call.Guarded id scene := by
  obtain ⟨id, known, same, noZero⟩ := Request.exists_id valid
  refine ⟨id, same, fun call next scene leads => ?_⟩
  exact (ensures_leads leads (installation_ensures known noZero policy (opening settings))).guarded

theorem calls_guarded_sample :
    ∃ id : RequestId, id.text = Request.sample.uuid ∧
      ∀ (call : Agent.Call) (next : Agent.Reply call → Agent Outcome) (scene : Scene),
        surroundings.Leads (Installation.run .standard .sample, opening .empty)
          (.ask call next, scene) → call.Guarded id scene :=
  calls_guarded .standard .sample Request.check_sample .empty

end DualBank
