import DualBank.Record.Store
import DualBank.Request
import DualBank.SettingsTable
import DualBank.Proofs.Surroundings

/-! The record of an update in a table of settings, and what storing it comes to in any
surroundings: a call that stores something leads to one assertion if it succeeds and to another if
it fails, and the complaint that follows a failure changes neither. -/

namespace DualBank

open Program Surroundings

namespace SettingsTable

def record (settings : SettingsTable) : Record :=
  .decode (settings.load Record.space Record.stageKey) (settings.load Record.space Record.idKey)

theorem record_save_stage (settings : SettingsTable) (stage : Stage) :
    (settings.save Record.space Record.stageKey [stage.byte]).record =
      ⟨stage, settings.record.id⟩ := by
  have decoded : Record.decodeStage (some [stage.byte]) = stage := by cases stage <;> rfl
  simp [record, Record.decode, load_save, Record.space, Record.stageKey, Record.idKey, decoded]

theorem record_save_id (settings : SettingsTable) (id : RequestId)
    (noZero : ∀ byte ∈ Bytes.ofText id.text, byte ≠ 0) :
    (settings.save Record.space Record.idKey id.encode).record =
      ⟨settings.record.stage, some id⟩ := by
  simp [record, Record.decode, load_save, Record.space, Record.stageKey, Record.idKey,
    RequestId.decode?_encode id noZero]

theorem record_delete_id (settings : SettingsTable) :
    (settings.delete Record.space Record.idKey).record = ⟨settings.record.stage, none⟩ := by
  simp [record, Record.decode, load_delete, Record.space, Record.stageKey, Record.idKey]

end SettingsTable

/-- A request that passes its check has an id that its record can hold. -/
theorem Request.exists_id {request : Request} (valid : request.check = .ok ()) :
    ∃ id, RequestId.ofText? request.uuid = some id ∧ id.text = request.uuid ∧
      ∀ byte ∈ Bytes.ofText id.text, byte ≠ 0 := by
  have canonical := isCanonical_of_check valid
  refine ⟨⟨request.uuid, width_of_isCanonical canonical⟩, ?_, rfl, ?_⟩
  · exact (RequestId.ofText?_eq_some_iff _ _).2 rfl
  · exact ne_zero_of_isCanonical canonical

variable {surroundings : Surroundings Agent.interface}
  {guard : Agent.Call → surroundings.State → Prop}

structure Rests (surroundings : Surroundings Agent.interface)
    (guard : Agent.Call → surroundings.State → Prop)
    (assertion : surroundings.State → Prop) : Prop where
  stable : surroundings.Stable assertion
  logs : ∀ record, surroundings.Keeps assertion (.device (.log record))
  guarded : ∀ record state, assertion state → guard (.device (.log record)) state

theorem ensures_log {assertion : surroundings.State → Prop}
    (rests : Rests surroundings guard assertion) (record : Log.Record)
    {state : surroundings.State} (holds : assertion state)
    {α : Type} {next : Unit → Agent α} {post : α → surroundings.State → Prop}
    (onward : ∀ later, assertion later → surroundings.Ensures guard post (next ()) later) :
    surroundings.Ensures guard post (.ask (.device (.log record)) next) state :=
  ensures_ask rests.stable holds (rests.guarded record) fun later reply after still answers =>
    onward after (rests.logs record later reply after answers still)

def Settled {α : Type} (cause : SettingsError) (reached kept : surroundings.State → Prop) :
    Except SettingsError α → surroundings.State → Prop
  | .ok _, state => reached state
  | .error error, state => error = cause ∧ kept state

theorem ensures_orFail {α : Type} {cause : SettingsError} {complaint : String}
    {reached kept : surroundings.State → Prop} {reply : Except Failure α}
    {state : surroundings.State} (reachedRests : Rests surroundings guard reached)
    (keptRests : Rests surroundings guard kept)
    (stored : ∀ value, reply = .ok value → reached state)
    (refused : ∀ failure, reply = .error failure → kept state) :
    surroundings.Ensures guard (Settled cause reached kept) (Record.orFail cause complaint reply)
      state := by
  cases reply with
  | ok value => exact ensures_done reachedRests.stable (stored value rfl) fun _ holds => holds
  | error failure =>
      refine ensures_log keptRests _ (refused failure rfl) ?_
      intro later holds
      exact ensures_done keptRests.stable holds fun _ holds => ⟨rfl, holds⟩

theorem ensures_stored (call : Device.Call) {α : Type}
    (read : Device.Reply call → Except Failure α) {cause : SettingsError} {complaint : String}
    {before reached kept : surroundings.State → Prop} {state : surroundings.State}
    (stable : surroundings.Stable before)
    (guarded : ∀ state, before state → guard (.device call) state)
    (reachedRests : Rests surroundings guard reached) (keptRests : Rests surroundings guard kept)
    (stored : ∀ state reply after value, before state →
      surroundings.Answers (.device call) state reply after → read reply = .ok value →
      reached after)
    (refused : ∀ state reply after failure, before state →
      surroundings.Answers (.device call) state reply after → read reply = .error failure →
      kept after)
    (holds : before state) :
    surroundings.Ensures guard (Settled cause reached kept)
      (.ask (.device call) fun reply => Record.orFail cause complaint (read reply)) state := by
  refine ensures_ask stable holds guarded ?_
  intro state reply after still answers
  exact ensures_orFail reachedRests keptRests
    (fun value same => stored state reply after value still answers same)
    (fun failure same => refused state reply after failure still answers same)

end DualBank
