import DualBank.Proofs.Cancellation
import DualBank.Proofs.Notices
import DualBank.Proofs.Site
import DualBank.Proofs.WriteAhead

/-! What is told of an update once it is over. Its record is put away under two keys, by two
calls, and each of them may be refused. Once the stage that was stored is idle, settling the record
again leaves the bootloader alone, however often it is done; but as long as the id is still stored,
it takes the update for one that was interrupted. -/

namespace DualBank

open Program Surroundings Scene SettingsTable
open Agent.Call (Announces Clears Executes Settles Stores)
open Happening (stageSaved)

namespace Happening

def idForgotten : Happening :=
  .exchange (.device (.delete Record.space Record.idKey)) (.ok ())

end Happening

open Happening (idForgotten)

namespace Scene

structure Unstowed (scene : Scene) : Prop where
  stage : stageSaved .idle ∉ scene.history
  id : idForgotten ∉ scene.history

structure Stowed (scene : Scene) : Prop where
  stage : stageSaved .idle ∈ scene.history → scene.settings.record.stage = .idle
  id : idForgotten ∈ scene.history → scene.settings.record.id = none

end Scene

section Stowing

variable {call : Agent.Call} {before after : Scene} {reply : Agent.interface.Reply call}

theorem stowed_of_unstowed {scene : Scene} (unstowed : scene.Unstowed) : scene.Stowed :=
  ⟨fun saved => absurd saved unstowed.stage, fun deleted => absurd deleted unstowed.id⟩

theorem mem_of_answers {happening : Happening}
    (answers : surroundings.Answers call before reply after)
    (inside : happening ∈ after.history) :
    happening ∈ before.history ∨ happening = .exchange call reply := by
  rw [history_of_answers answers, List.mem_append, List.mem_singleton] at inside
  exact inside

theorem unstowed_withstands :
    Withstands surroundings (fun _ => Stowed) (fun call => call.Stores → ¬ call.Clears)
      Unstowed where
  stable := by
    rintro before after rfl unstowed
    constructor
    · simpa [cancel, stageSaved] using unstowed.stage
    · simpa [cancel, idForgotten] using unstowed.id
  kept call other := by
    intro before reply after answers unstowed
    constructor
    · intro saved
      rcases mem_of_answers answers saved with earlier | latest
      · exact unstowed.stage earlier
      · cases latest
        exact other trivial ⟨rfl, rfl, rfl⟩
    · intro deleted
      rcases mem_of_answers answers deleted with earlier | latest
      · exact unstowed.id earlier
      · cases latest
        exact other trivial ⟨rfl, rfl⟩
  guarded _ _ _ unstowed := stowed_of_unstowed unstowed

theorem stowed_unstored (unstored : ¬ call.Stores)
    (answers : surroundings.Answers call before reply after) (stowed : before.Stowed) :
    after.Stowed := by
  have same := settings_of_answers answers unstored
  constructor
  · intro saved
    rw [same]
    rcases mem_of_answers answers saved with earlier | latest
    · exact stowed.stage earlier
    · cases latest
      exact absurd trivial unstored
  · intro deleted
    rw [same]
    rcases mem_of_answers answers deleted with earlier | latest
    · exact stowed.id earlier
    · cases latest
      exact absurd trivial unstored

theorem stowed_idle {reply : Except Failure Unit}
    (answers : surroundings.Answers
      (.device (.save Record.space Record.stageKey [Stage.idle.byte])) before reply after)
    (stowed : before.Stowed) : after.Stowed := by
  have id (deleted : idForgotten ∈ after.history) : before.settings.record.id = none := by
    rcases mem_of_answers answers deleted with earlier | latest
    · exact stowed.id earlier
    · cases latest
  obtain ⟨settings, answered, rfl⟩ := answers
  cases reply with
  | ok value =>
      obtain rfl : settings = before.settings.save Record.space Record.stageKey [Stage.idle.byte] :=
        answered
      refine ⟨fun _ => ?_, fun deleted => ?_⟩ <;> dsimp only <;> rw [record_save_stage]
      exact id deleted
  | error failure =>
      obtain rfl : settings = before.settings := answered
      refine ⟨fun saved => stowed.stage ?_, id⟩
      simpa [stageSaved] using saved

theorem stowed_forgotten {reply : Except Failure Unit}
    (answers : surroundings.Answers (.device (.delete Record.space Record.idKey)) before reply
      after) (stowed : before.Stowed) : after.Stowed := by
  have stage (saved : stageSaved .idle ∈ after.history) :
      before.settings.record.stage = .idle := by
    rcases mem_of_answers answers saved with earlier | latest
    · exact stowed.stage earlier
    · cases latest
  obtain ⟨settings, answered, rfl⟩ := answers
  cases reply with
  | ok value =>
      obtain rfl : settings = before.settings.delete Record.space Record.idKey := answered
      refine ⟨fun saved => ?_, fun _ => ?_⟩ <;> dsimp only <;> rw [record_delete_id]
      exact stage saved
  | error failure =>
      obtain rfl : settings = before.settings := answered
      refine ⟨stage, fun deleted => stowed.id ?_⟩
      simpa [idForgotten] using deleted

theorem stowed_withstands :
    Withstands surroundings (fun _ => Stowed) (fun call => call.Stores → call.Clears) Stowed where
  stable := by
    rintro before after rfl stowed
    constructor
    · simpa [cancel, stageSaved] using stowed.stage
    · simpa [cancel, idForgotten] using stowed.id
  kept call clears := by
    intro before reply after answers stowed
    by_cases stores : call.Stores
    · have clears := clears stores
      unfold Stores at stores
      split at stores
      · obtain ⟨rfl, rfl, rfl⟩ := clears
        exact stowed_idle answers stowed
      · obtain ⟨rfl, rfl⟩ := clears
        exact stowed_forgotten answers stowed
      · contradiction
    · exact stowed_unstored stores answers stowed
  guarded _ _ _ stowed := stowed

theorem not_clears_of_executes {request : Request} (executes : call.Executes request)
    (stores : call.Stores) : ¬ call.Clears := by
  cases executes with
  | prepare => exact stores.elim
  | @stage stage other =>
      rintro ⟨_, _, same⟩
      exact other (by cases stage <;> first | rfl | contradiction)
  | id known =>
      rintro ⟨_, impossible, _⟩
      contradiction
  | fetch fetches => exact absurd stores (Agent.Call.not_stores_of_fetches fetches)
  | deploy announces => exact absurd stores (Agent.Call.not_stores_of_announces announces)
  | handOver handsOver => exact absurd stores (Agent.Call.not_stores_of_handsOver handsOver)

end Stowing

section Retiring

theorem stows_of_always {α : Type} {program : Agent α} {scene : Scene} {condition : α → Prop}
    (always : program.Always (fun call : Agent.Call => call.Stores → call.Clears) condition)
    (stowed : scene.Stowed) :
    surroundings.Ensures (fun _ => Stowed) (fun _ => Stowed) program scene :=
  ensures_mono (stowed_withstands.ensures always (fun _ clears => clears) stowed)
    fun _ _ ended => ended.2

theorem clears_of_concludes {call : Agent.Call} (concludes : call.Concludes)
    (stores : call.Stores) : call.Clears := by
  rcases concludes with clears | rfl
  · exact clears
  · exact stores.elim

/-- Until it has been executed, an installation puts nothing away, and from then on it stores
nothing else. -/
theorem installation_stows (policy : Policy) (request : Request) (settings : SettingsTable) :
    surroundings.Ensures (fun _ => Stowed) (fun _ => Stowed) (Installation.run policy request)
      (opening settings) := by
  have opened : (opening settings).Unstowed := by
    constructor <;> simp [opening]
  have announcing {phases : List Phase} (call : Agent.Call)
      (announces : call.Announces request.uuid phases) : ¬ call.Stores :=
    Agent.Call.not_stores_of_announces announces
  have concludes (outcome : Outcome) :
      (Installation.conclude outcome).Always
        (fun call : Agent.Call => call.Stores → call.Clears) fun _ => True :=
    always_mono (conclude_always outcome) (fun _ => clears_of_concludes) fun _ _ => trivial
  simp only [Installation.run, Agent.log, Agent.device, bind_eq, ask_bind, done_bind, pure_eq_done]
  refine ensures_bind (unstowed_withstands.ensures (phase_always (.head []))
    (fun call announces stores => absurd stores (announcing call announces)) opened) ?_
  rintro _ later ⟨_, unstowed⟩
  refine unstowed_withstands.ensures_ask _ False.elim unstowed ?_
  intro _ later unstowed
  refine ensures_bind (unstowed_withstands.ensures (execute_always policy request)
    (fun _ => not_clears_of_executes) unstowed) ?_
  rintro result later ⟨_, unstowed⟩
  have stowed := stowed_of_unstowed unstowed
  split
  · exact ensures_done stowed_withstands.stable stowed fun _ stowed => stowed
  · refine stowed_withstands.ensures_ask _ False.elim stowed ?_
    exact fun _ _ stowed => stows_of_always (concludes _) stowed
  · refine stowed_withstands.ensures_ask _ False.elim stowed ?_
    intro _ later stowed
    refine stows_of_always (always_bind (always_mono (error_always (.head []) _) ?_
      fun _ holds => holds) fun _ _ => concludes _) stowed
    exact fun call announces stores => absurd stores (announcing call announces)

theorem resolution_stows (settings : SettingsTable) (slot : Slot) :
    surroundings.Ensures (fun _ => Stowed) (fun _ => Stowed) Resolution.run
      ⟨settings, slot, []⟩ := by
  have fresh : Stowed ⟨settings, slot, []⟩ := by
    constructor <;> simp
  exact stows_of_always (always_mono resolution_always (fun _ => Agent.Call.clears_of_settles)
    fun _ holds => holds) fresh

/-- An update is over: a run of it, or one that settled it, has stored that nothing is due any
more. -/
inductive Retired : Scene → Prop
  | installed {policy : Policy} {request : Request} {settings : SettingsTable}
      {rest : Agent Outcome} {last : Scene} :
      surroundings.Leads (Installation.run policy request, opening settings) (rest, last) →
      stageSaved .idle ∈ last.history → Retired last
  | settled {settings : SettingsTable} {slot : Slot} {rest : Agent Resolution} {last : Scene} :
      surroundings.Leads (Resolution.run, ⟨settings, slot, []⟩) (rest, last) →
      stageSaved .idle ∈ last.history → Retired last

theorem idle_of_retired {last : Scene} (retired : Retired last) :
    last.settings.record.stage = .idle ∧
      (idForgotten ∈ last.history → last.settings.record.id = none) := by
  cases retired with
  | installed leads saved =>
      have stowed := holds_of_ensures (installation_stows _ _ _) leads
      exact ⟨stowed.stage saved, stowed.id⟩
  | settled leads saved =>
      have stowed := holds_of_ensures (resolution_stows _ _) leads
      exact ⟨stowed.stage saved, stowed.id⟩

end Retiring

/-- The record is settled again and again, after each restart or without one. Each time settling has
come as far as the next of these scenes, if not to its end. -/
inductive Recoveries : SettingsTable → List Scene → Prop
  | none (settings : SettingsTable) : Recoveries settings []
  | next {settings : SettingsTable} {slot : Slot} {rest : Agent Resolution} {scene : Scene}
      {scenes : List Scene} :
      surroundings.Leads (Resolution.run, ⟨settings, slot, []⟩) (rest, scene) →
      Recoveries scene.settings scenes → Recoveries settings (scene :: scenes)

def Agent.Call.Mutters (known : Option RequestId) : Agent.Call → Prop
  | .device (.load ..) => True
  | call => call.Clears ∨ ∃ id, known = some id ∧ call.Announces id.text [.failure]

structure Scene.Murmurs (known : Option RequestId) (scene : Scene) : Prop where
  stage : scene.settings.record.stage = .idle
  id : scene.settings.record.id = known ∨ scene.settings.record.id = none
  calls : ∀ call reply, .exchange call reply ∈ scene.history → call.Mutters known

section Recovering

variable {known : Option RequestId} {scene : Scene} {settings : SettingsTable}

theorem mutters_of_clears {call : Agent.Call} (clears : call.Clears) : call.Mutters known := by
  unfold Agent.Call.Mutters
  split
  · trivial
  · exact .inl clears

theorem mutters_of_announces {call : Agent.Call} {id : RequestId} (same : known = some id)
    (announces : call.Announces id.text [.failure]) : call.Mutters known := by
  unfold Agent.Call.Mutters
  split
  · trivial
  · exact .inr ⟨id, same, announces⟩

theorem record_of_answers {call : Agent.Call} {before after : Scene}
    {reply : Agent.interface.Reply call} (mutters : call.Mutters known)
    (answers : surroundings.Answers call before reply after) :
    after.settings.record = before.settings.record ∨
      after.settings.record = ⟨.idle, before.settings.record.id⟩ ∨
      after.settings.record = ⟨before.settings.record.stage, none⟩ := by
  by_cases stores : call.Stores
  · have clears : call.Clears := by
      unfold Agent.Call.Mutters at mutters
      split at mutters
      · exact stores.elim
      · rcases mutters with clears | ⟨id, _, announces⟩
        · exact clears
        · exact absurd stores (Agent.Call.not_stores_of_announces announces)
    unfold Stores at stores
    split at stores
    · obtain ⟨rfl, rfl, rfl⟩ := clears
      obtain ⟨settings, answered, rfl⟩ := answers
      rcases reply with failure | value
      · obtain rfl : settings = before.settings := answered
        exact .inl rfl
      · obtain rfl : settings =
          before.settings.save Record.space Record.stageKey [Stage.idle.byte] := answered
        exact .inr (.inl (record_save_stage _ _))
    · obtain ⟨rfl, rfl⟩ := clears
      obtain ⟨settings, answered, rfl⟩ := answers
      rcases reply with failure | value
      · obtain rfl : settings = before.settings := answered
        exact .inl rfl
      · obtain rfl : settings = before.settings.delete Record.space Record.idKey := answered
        exact .inr (.inr (record_delete_id _))
    · contradiction
  · exact .inl (congrArg _ (settings_of_answers answers stores))

theorem murmurs_withstands :
    Withstands surroundings (fun _ => Murmurs known) (Agent.Call.Mutters known)
      (Murmurs known) where
  stable := by
    rintro before after rfl murmurs
    refine ⟨murmurs.stage, murmurs.id, fun call reply inside => murmurs.calls call reply ?_⟩
    simpa [cancel] using inside
  kept call mutters := by
    intro before reply after answers murmurs
    have calls (other : Agent.Call) (answer : Agent.Reply other)
        (inside : .exchange other answer ∈ after.history) : other.Mutters known := by
      rcases mem_of_answers answers inside with earlier | latest
      · exact murmurs.calls other answer earlier
      · cases latest
        exact mutters
    rcases record_of_answers mutters answers with same | same | same
    · exact ⟨same ▸ murmurs.stage, same ▸ murmurs.id, calls⟩
    · exact ⟨by rw [same], by rw [same]; exact murmurs.id, calls⟩
    · exact ⟨by rw [same]; exact murmurs.stage, by simp [same], calls⟩
  guarded _ _ _ murmurs := murmurs

theorem resolve_mutters {record : Record} (idle : record.stage = .idle)
    (among : record.id = known ∨ record.id = none) :
    (Resolution.resolve record).Always (Agent.Call.Mutters known) fun _ => True := by
  have logs (record : Log.Record) : (Agent.Call.device (.log record)).Mutters known :=
    mutters_of_clears trivial
  obtain ⟨stage, id⟩ := record
  cases idle
  simp only [Resolution.resolve, Agent.log, Agent.device, bind_eq, ask_bind, done_bind,
    pure_eq_done]
  cases id with
  | none => exact ⟨logs _, fun _ => trivial⟩
  | some id =>
      have same : known = some id := by simpa [eq_comm] using among
      refine ⟨logs _, fun _ => ⟨logs _, fun _ => ?_⟩⟩
      exact always_bind (always_mono (error_always (.head []) _)
        (fun _ => mutters_of_announces same) fun _ holds => holds) fun _ _ => trivial

abbrev Scene.Reads (known : Option RequestId) (settings : SettingsTable) (scene : Scene) : Prop :=
  scene.Murmurs known ∧ scene.settings = settings

theorem reads_withstands :
    Withstands surroundings (fun _ => Murmurs known)
      (fun call => call.Mutters known ∧ ¬ call.Stores) (Reads known settings) where
  stable := by
    rintro before after rfl ⟨murmurs, same⟩
    exact ⟨murmurs_withstands.stable _ _ rfl murmurs, same⟩
  kept call calls := by
    rintro before reply after answers ⟨murmurs, same⟩
    exact ⟨murmurs_withstands.kept call calls.1 before reply after answers murmurs,
      (settings_of_answers answers calls.2).trans same⟩
  guarded _ _ _ reads := reads.1

theorem ensures_loaded {α : Type} {post : α → Scene → Prop} {space key : String}
    {next : Except Failure (Option Bytes) → Agent α} (reads : scene.Reads known settings)
    (onward : ∀ reply later, Reads known settings later →
      (∀ value, reply = .ok value → value = settings.load space key) →
      surroundings.Ensures (fun _ => Murmurs known) post (next reply) later) :
    surroundings.Ensures (fun _ => Murmurs known) post (.ask (.device (.load space key)) next)
      scene := by
  refine ensures_ask reads_withstands.stable reads (fun _ reads => reads.1) ?_
  intro before reply after reads answers
  have still := reads_withstands.kept (.device (.load space key)) ⟨trivial, not_false⟩ before reply
    after answers reads
  refine onward reply after still ?_
  rintro value rfl
  obtain ⟨later, answered, _⟩ := answers
  exact answered.1.trans (by rw [reads.2])

theorem load_murmurs (reads : scene.Reads known settings) :
    surroundings.Ensures (fun _ => Murmurs known)
      (fun result later => later.Murmurs known ∧
        ∀ record, result = .ok record → record = settings.record)
      Record.load scene := by
  have logs (record : Log.Record) : (Agent.Call.device (.log record)).Mutters known ∧
      ¬ (Agent.Call.device (.log record)).Stores := ⟨mutters_of_clears trivial, not_false⟩
  have ends {result : Except SettingsError Record} {later : Scene}
      (reads : later.Reads known settings)
      (read : ∀ record, result = .ok record → record = settings.record) :
      surroundings.Ensures (fun _ => Murmurs known)
        (fun result later => later.Murmurs known ∧
          ∀ record, result = .ok record → record = settings.record)
        (.done result) later :=
    ensures_done reads_withstands.stable reads fun _ reads => ⟨reads.1, read⟩
  simp only [Record.load, Agent.log, Agent.device, bind_eq, ask_bind, done_bind, pure_eq_done]
  refine ensures_loaded reads fun stage later reads stageRead => ?_
  cases stage with
  | error failure =>
      exact reads_withstands.ensures_ask _ (logs _) reads fun _ _ reads => ends reads (by simp)
  | ok stage =>
      refine ensures_loaded reads fun id later reads idRead => ?_
      cases id with
      | error failure =>
          exact reads_withstands.ensures_ask _ (logs _) reads fun _ _ reads => ends reads (by simp)
      | ok id =>
          have read (record : Record)
              (same : (.ok (.decode stage id) : Except SettingsError Record) = .ok record) :
              record = settings.record := by
            cases same
            rw [stageRead stage rfl, idRead id rfl, SettingsTable.record]
          simp only [Record.orFail, pure_eq_done, done_bind]
          cases Record.unknownByte? stage with
          | none => exact ends reads read
          | some byte =>
              exact reads_withstands.ensures_ask _ (logs _) reads fun _ _ reads => ends reads read

theorem resolution_murmurs (murmurs : scene.Murmurs known) :
    surroundings.Ensures (fun _ => Murmurs known) (fun _ => Murmurs known) Resolution.run
      scene := by
  have logs (record : Log.Record) : (Agent.Call.device (.log record)).Mutters known :=
    mutters_of_clears trivial
  have resets {next : Except SettingsError Unit → Agent Resolution}
      (onward : ∀ result, (next result).Always (Agent.Call.Mutters known) fun _ => True) :
      (Record.reset.bind next).Always (Agent.Call.Mutters known) fun _ => True :=
    always_bind (always_mono reset_always (fun _ => mutters_of_clears) fun _ holds => holds)
      fun result _ => onward result
  have settles {program : Agent Resolution} {later : Scene} (murmurs : later.Murmurs known)
      (always : program.Always (Agent.Call.Mutters known) fun _ => True) :
      surroundings.Ensures (fun _ => Murmurs known) (fun _ => Murmurs known) program later :=
    ensures_mono (murmurs_withstands.ensures always (fun _ mutters => mutters) murmurs)
      fun _ _ ended => ended.2
  simp only [Resolution.run, Agent.log, Agent.device, bind_eq, ask_bind, done_bind, pure_eq_done]
  refine ensures_bind (load_murmurs ⟨murmurs, rfl⟩) ?_
  rintro result later ⟨still, read⟩
  cases result with
  | error error =>
      refine settles still ⟨logs _, fun _ => resets fun result => ?_⟩
      cases result with
      | error error => exact ⟨logs _, fun _ => trivial⟩
      | ok value => trivial
  | ok record =>
      obtain rfl := read record rfl
      refine settles still (always_bind (resolve_mutters murmurs.stage murmurs.id) fun _ _ =>
        resets fun result => ?_)
      cases result with
      | error error => exact ⟨logs _, fun _ => trivial⟩
      | ok value => trivial

theorem murmurs_of_recoveries {scenes : List Scene} (recoveries : Recoveries settings scenes)
    (idle : settings.record.stage = .idle)
    (among : settings.record.id = known ∨ settings.record.id = none) :
    ∀ scene ∈ scenes, scene.Murmurs known := by
  induction recoveries with
  | none settings => simp
  | @next settings slot rest scene scenes leads recoveries ih =>
      have start : Murmurs known ⟨settings, slot, []⟩ := ⟨idle, among, by simp⟩
      have murmurs := holds_of_ensures (resolution_murmurs start) leads
      exact List.forall_mem_cons.2 ⟨murmurs, ih murmurs.stage murmurs.id⟩

end Recovering

section Telling

variable {settings : SettingsTable} {id : RequestId} {scene : Scene}

theorem mem_history_of_events {event : Event} (told : event ∈ scene.events) :
    ∃ reply, .exchange (.device (.publish event)) reply ∈ scene.history := by
  obtain ⟨happening, inside, same⟩ := List.mem_filterMap.1 told
  unfold Happening.event? at same
  split at same
  · cases same
    exact ⟨_, inside⟩
  · contradiction

def Speaks (program : Agent Resolution) (scene : Scene) : Prop :=
  ∃ rest later, surroundings.Leads (program, scene) (rest, later) ∧ later.events ≠ []

theorem speaks_device {call : Device.Call} {next : Device.Reply call → Agent Resolution}
    (reply : Device.Reply call) {changed : SettingsTable}
    (answered : call.Answered scene.settings reply changed)
    (onward : Speaks (next reply)
      ⟨changed, scene.slot, scene.history ++ [.exchange (.device call) reply]⟩) :
    Speaks (.ask (.device call) next) scene := by
  obtain ⟨rest, later, leads, told⟩ := onward
  exact ⟨rest, later, .head (.answer ⟨_, answered, rfl⟩) leads, told⟩

theorem speaks_notify {notification : Notification}
    {next : Unit → Agent Resolution}
    (onward : Speaks (next ()) { scene with
      history := scene.history ++ [.exchange (.shared (.notify notification)) ()] }) :
    Speaks (.ask (.shared (.notify notification)) next) scene := by
  obtain ⟨rest, later, leads, told⟩ := onward
  exact ⟨rest, later, .head (.answer rfl) leads, told⟩

theorem speaks_publish {event : Event}
    {next : Device.Reply (.publish event) → Agent Resolution} :
    Speaks (.ask (.device (.publish event)) next) scene := by
  refine speaks_device (.ok ()) rfl ⟨_, _, .refl, ?_⟩
  simp [Scene.events, Happening.event?]

theorem speaks_of_known (slot : Slot) (idle : settings.record.stage = .idle)
    (known : settings.record.id = some id) : Speaks Resolution.run ⟨settings, slot, []⟩ := by
  have resolves {later : Scene} {continuation : Resolution → Agent Resolution} :
      Speaks ((Resolution.resolve settings.record).bind continuation) later := by
    have same : settings.record = ⟨.idle, some id⟩ := by rw [← idle, ← known]
    rw [same]
    exact speaks_device () rfl (speaks_device () rfl (speaks_device 0 rfl
      (speaks_notify speaks_publish)))
  simp only [Resolution.run, Record.load, Agent.log, Agent.device, bind_eq, ask_bind, done_bind,
    pure_eq_done, Program.bind_assoc]
  refine speaks_device (.ok (settings.load Record.space Record.stageKey)) ⟨rfl, rfl⟩ ?_
  simp only [Record.orFail]
  refine speaks_device (.ok (settings.load Record.space Record.idKey)) ⟨rfl, rfl⟩ ?_
  simp only [pure_eq_done, done_bind]
  cases Record.unknownByte? (settings.load Record.space Record.stageKey) with
  | none => exact resolves
  | some byte => exact speaks_device () rfl resolves

end Telling

section Verdict

variable {known : Option RequestId} {scene : Scene}

theorem unflashed_of_mutters {call : Device.Call}
    (mutters : (Agent.Call.device call).Mutters known) : call.isFlash = false := by
  cases call <;>
    first
    | rfl
    | rcases mutters with impossible | ⟨_, _, impossible⟩ <;> exact impossible.elim

theorem failure_of_murmurs (murmurs : scene.Murmurs known) {event : Event}
    (told : event ∈ scene.events) :
    ∃ id, known = some id ∧ event.requestUuid = id.text ∧ event.status = Phase.failure.status := by
  obtain ⟨reply, inside⟩ := mem_history_of_events told
  rcases murmurs.calls _ _ inside with impossible | ⟨id, same, uuid, phase, among, status⟩
  · exact impossible.elim
  · cases List.mem_singleton.1 among
    exact ⟨id, same, uuid, status⟩

end Verdict

/-- Once an update is over, settling its record again leaves the bootloader alone, and tells
nothing but a failure of the update whose id is still stored. So it is never heard of again if and
only if no id is stored any more, as is the case if the id could be deleted. -/
theorem retired_silent_iff {last : Scene} (retired : Retired last) :
    (∀ scenes, Recoveries last.settings scenes → ∀ scene ∈ scenes,
      (∀ call reply, .exchange (.device call) reply ∈ scene.history → call.isFlash = false) ∧
      ∀ event ∈ scene.events, ∃ id, last.settings.record.id = some id ∧
        event.requestUuid = id.text ∧ event.status = Phase.failure.status) ∧
    (idForgotten ∈ last.history → last.settings.record.id = none) ∧
    ((∀ scenes, Recoveries last.settings scenes → ∀ scene ∈ scenes, scene.events = []) ↔
      last.settings.record.id = none) := by
  obtain ⟨idle, forgotten⟩ := idle_of_retired retired
  have murmurs (scenes : List Scene) (recoveries : Recoveries last.settings scenes) :=
    murmurs_of_recoveries recoveries idle (.inl rfl)
  refine ⟨fun scenes recoveries scene inside => ⟨?_, ?_⟩, forgotten, ?_, ?_⟩
  · exact fun call reply asked =>
      unflashed_of_mutters ((murmurs scenes recoveries scene inside).calls _ reply asked)
  · exact fun event told => failure_of_murmurs (murmurs scenes recoveries scene inside) told
  · intro silent
    by_contra stored
    obtain ⟨id, known⟩ := Option.ne_none_iff_exists'.1 stored
    obtain ⟨rest, later, leads, told⟩ := speaks_of_known .idle idle known
    exact told (silent [later] (.next leads (.none _)) later (.head []))
  · intro unknown scenes recoveries scene inside
    refine List.eq_nil_iff_forall_not_mem.2 fun event told => ?_
    obtain ⟨id, known, _⟩ := failure_of_murmurs (murmurs scenes recoveries scene inside) told
    rw [unknown] at known
    contradiction

def Happening.savesIdle : Happening → Bool
  | .exchange (.device (.save space key value)) (.ok ()) =>
      space = Record.space ∧ key = Record.stageKey ∧ value = [Stage.idle.byte]
  | _ => false

theorem mem_of_savesIdle {history : List Happening}
    (saves : history.any Happening.savesIdle = true) : stageSaved .idle ∈ history := by
  obtain ⟨happening, inside, saved⟩ := List.any_eq_true.1 saves
  unfold Happening.savesIdle at saved
  split at saved
  · obtain ⟨rfl, rfl, rfl⟩ := of_decide_eq_true saved
    exact inside
  · contradiction

namespace Trial

def answerHoarding (last : Agent.Call → Bool) :
    (call : Agent.Call) → Trial → Agent.Reply call × Trial
  | .device (.delete space key), trial =>
      let refused := .error (.other "refused")
      (refused, { trial with
        history := trial.history ++ [.exchange (.device (.delete space key)) refused] })
  | call, trial => answerUntil last call trial

theorem answerHoarding_faithful (last : Agent.Call → Bool) (call : Agent.Call) (trial : Trial) :
    ∃ later, Scene.surroundings.Answers call trial.scene (answerHoarding last call trial).1 later ∧
      Scene.surroundings.Passes later (answerHoarding last call trial).2.scene := by
  unfold answerHoarding
  split
  · exact ⟨_, ⟨_, rfl, rfl⟩, .refl⟩
  · exact answerUntil_faithful last _ trial

theorem leads_hoarding {α : Type} (last : Agent.Call → Bool) (program : Agent α) (trial : Trial) :
    Scene.surroundings.Leads (program, trial.scene)
      (.done (program.run (answerHoarding last) trial).1,
        (program.run (answerHoarding last) trial).2.scene) :=
  @leads_run Agent.interface α Scene.surroundings Trial scene (answerHoarding last)
    (answerHoarding_faithful last) program trial

def canceled : Outcome × Trial :=
  (Installation.run .standard .sample).run (answerHoarding fun call => match call with
    | .device (.erase _) => true
    | _ => false) (opening [.single])

theorem leads_canceled :
    Scene.surroundings.Leads (Installation.run .standard .sample, Scene.opening .empty)
      (.done .canceled, canceled.2.scene) := by
  have outcome : canceled.1 = .canceled := by decide +kernel
  rw [← outcome]
  exact leads_hoarding _ _ (opening [.single])

theorem idle_canceled : stageSaved .idle ∈ canceled.2.scene.history :=
  mem_of_savesIdle (by decide +kernel)

def repeated : Resolution × Trial :=
  Resolution.run.run (answerHoarding fun _ => false)
    { canceled.2 with slot := .idle, history := [] }

end Trial

open Trial

theorem retired_silent_iff_canceled :
    Retired canceled.2.scene ∧
    (∀ scenes, Recoveries canceled.2.scene.settings scenes → ∀ scene ∈ scenes,
      (∀ call reply, .exchange (.device call) reply ∈ scene.history → call.isFlash = false) ∧
      ∀ event ∈ scene.events, ∃ id, canceled.2.scene.settings.record.id = some id ∧
        event.requestUuid = id.text ∧ event.status = Phase.failure.status) ∧
    (idForgotten ∈ canceled.2.scene.history → canceled.2.scene.settings.record.id = none) ∧
    ((∀ scenes, Recoveries canceled.2.scene.settings scenes → ∀ scene ∈ scenes,
      scene.events = []) ↔ canceled.2.scene.settings.record.id = none) :=
  have retired : Retired canceled.2.scene := .installed leads_canceled idle_canceled
  ⟨retired, retired_silent_iff retired⟩

/-- An update was canceled, and that nothing is due any more was stored; yet a failure of it is told
at the next start, for its id could not be deleted. -/
theorem canceled_update_reported :
    Scene.surroundings.Leads (Installation.run .standard .sample, Scene.opening .empty)
        (.done .canceled, canceled.2.scene) ∧
      stageSaved .idle ∈ canceled.2.scene.history ∧
      Recoveries canceled.2.scene.settings [repeated.2.scene] ∧
      ∃ event ∈ repeated.2.scene.events, event.requestUuid = Request.sample.uuid ∧
        event.status = Phase.failure.status := by
  refine ⟨leads_canceled, idle_canceled, ?_, by decide +kernel⟩
  exact .next (leads_hoarding (fun _ => false) Resolution.run
    { canceled.2 with slot := .idle, history := [] }) (.none _)

end DualBank
