import DualBank.Proofs.Cancellation
import DualBank.Proofs.Durable
import DualBank.Proofs.Itinerary

/-! A call that panics, and what the unwinding of its thread leaves behind. The record is put away
whatever the bootloader has been told, so a panic after the trial was accepted leaves a trial that
nobody will settle. -/

namespace DualBank

open Program Surroundings Scene

def Happening.isRefusal : Happening → Bool
  | .exchange (.device (.delete ..)) (.error _) => true
  | .exchange (.device (.save _ _ value)) (.error _) => value = [Stage.idle.byte]
  | _ => false

namespace Scene

/-- A call that panics may or may not have done to the settings what it was asked to, and nobody
hears what came of it. The history of what unwinds begins anew. -/
def Breaks (call : Device.Call) (before after : Scene) : Prop :=
  ∃ reply settings, call.Answered before.settings reply settings ∧
    after = ⟨settings, before.slot, []⟩

def Unwinds (before after : Scene) : Prop :=
  surroundings.Leads (Installation.unwind, before) (.done (), after) ∧
    after.history.any Happening.isRefusal = false

/-- The record that is left tells the next start what the bootloader is about to do. -/
def Agrees (request : Request) (reached last : Scene) : Prop :=
  if reached.history.any Happening.isTest then
    ∃ id : RequestId, id.text = request.uuid ∧ last.settings.record = ⟨.pendingReboot, some id⟩
  else last.settings.record = ⟨.idle, none⟩

end Scene

def Panics (policy : Policy) (request : Request) (settings : SettingsTable) (call : Device.Call)
    (reached broken : Scene) : Prop :=
  (∃ next, surroundings.Leads (Installation.run policy request, opening settings)
    (.ask (.device call) next, reached)) ∧ reached.Breaks call broken

namespace Agent.Call

def Departs (uuid : String) : Agent.Call → Prop
  | .device (.sleep _) | .device .restart => True
  | call => call.Announces uuid [.deployed, .rebooting]

end Agent.Call

open Agent.Call

namespace Scene

def Untested (scene : Scene) : Prop :=
  scene.history.any Happening.isTest = false

variable {call : Agent.Call} {before after scene : Scene} {reply : Agent.interface.Reply call}

theorem untested_opening (settings : SettingsTable) : (opening settings).Untested :=
  rfl

theorem stable_untested : surroundings.Stable Untested := by
  rintro before after rfl untested
  simpa [Untested, cancel, Happening.isTest] using untested

theorem isTest_of_other (other : call ≠ .device .requestTest) (reply : Agent.Reply call) :
    (Happening.exchange call reply).isTest = false := by
  unfold Happening.isTest
  split
  · rename_i same
    cases same
    contradiction
  · rfl

theorem tested_of_answers (answers : surroundings.Answers call before reply after)
    (other : call ≠ .device .requestTest) :
    after.history.any Happening.isTest = before.history.any Happening.isTest := by
  rw [history_of_answers answers]
  simp [isTest_of_other other]

theorem keeps_untested (other : call ≠ .device .requestTest) :
    surroundings.Keeps Untested call := by
  intro before reply after answers untested
  exact (tested_of_answers answers other).trans untested

end Scene

def Agent.Call.Parting (uuid : String) (call : Agent.Call) (scene : Scene) : Prop :=
  ¬ scene.Untested → call.Departs uuid

section Installing

variable {uuid : String} {call : Agent.Call}

theorem departs_of_announces (announces : call.Announces uuid [.deployed, .rebooting]) :
    call.Departs uuid := by
  unfold Agent.Call.Departs
  split
  · trivial
  · trivial
  · exact announces

theorem untested_withstands {calls : Agent.Call → Prop} (spared : ¬ calls (.device .requestTest)) :
    Withstands surroundings (Parting uuid) calls Untested where
  stable := stable_untested
  kept call among := keeps_untested (by rintro rfl; exact spared among)
  guarded _ _ _ untested tested := absurd untested tested

theorem departing_withstands :
    Withstands surroundings (Parting uuid) (Departs uuid) fun _ => True where
  stable _ _ _ _ := trivial
  kept _ _ _ _ _ _ _ := trivial
  guarded _ _ departs _ _ := departs

theorem handOver_parts (policy : Policy) {scene : Scene} (untested : scene.Untested) :
    surroundings.Ensures (Parting uuid)
      (fun result later => match result with | .ok () => True | .error _ => later.Untested)
      (Installation.handOver policy uuid) scene := by
  have withstands : Withstands surroundings (Parting uuid) (· ≠ .device .requestTest) Untested :=
    untested_withstands fun among => among rfl
  have fails {record : Log.Record} {later : Scene} (untested : later.Untested) :
      surroundings.Ensures (Parting uuid)
        (fun (result : Except UpdateError Unit) later =>
          match result with | .ok () => True | .error _ => later.Untested)
        (.ask (.device (.log record)) fun _ => .done (.error .internal)) later := by
    refine withstands.ensures_ask _ (by simp) untested ?_
    exact fun _ later untested => ensures_done stable_untested untested fun _ holds => holds
  simp only [Installation.handOver, Agent.device, Agent.log, bind_eq, ask_bind, done_bind,
    pure_eq_done]
  refine withstands.ensures_ask _ (by simp) untested ?_
  intro read later untested
  cases read with
  | error error => exact fails untested
  | ok header =>
      refine withstands.ensures_ask _ (by simp) untested ?_
      intro _ later untested
      refine ensures_ask stable_untested untested (fun _ untested tested => absurd untested tested)
        ?_
      intro before requested after untested answers
      cases requested with
      | error error =>
          refine fails ?_
          rw [Untested, history_of_answers answers, List.any_append, untested]
          rfl
      | ok value =>
          have quiet {phase : Phase} (told : phase ∈ [Phase.deployed, .rebooting]) :
              (Announcement.phase uuid phase).Always (Departs uuid) fun _ => True :=
            always_mono (phase_always told) (fun _ => departs_of_announces) fun _ _ => trivial
          -- From here on the guard is met by what the calls are, whatever has happened.
          refine ensures_mono (departing_withstands.ensures ?_ (fun _ departs => departs) trivial)
            fun result later (ended : result = .ok () ∧ True) => ?_
          · refine always_bind (quiet (.head _)) fun _ _ => ?_
            refine always_bind (quiet (.tail _ (.head _))) fun _ _ => ?_
            exact ⟨trivial, fun _ => ⟨trivial, fun _ => ⟨trivial, fun _ => ⟨trivial,
              fun _ => rfl⟩⟩⟩⟩
          · rw [ended.1]
            trivial

/-- On the way of an installation the bootloader accepts a trial at one call only, and what comes
after it is a farewell. -/
theorem parting_itinerary (policy : Policy) (request : Request) :
    Itinerary surroundings (Parting request.uuid) policy request Untested Untested Untested Untested
      (fun _ => True) fun _ => True where
  ready_withstands := untested_withstands fun impossible => impossible
  told_withstands := untested_withstands fun impossible => impossible
  stuck_withstands := untested_withstands fun impossible => impossible
  stuck_of_ready _ untested := untested
  stuck_of_told _ untested := untested
  stable_staged := stable_untested
  stable_restarting _ _ _ _ := trivial
  stable_finished _ _ _ _ := trivial
  attempt state untested := by
    have withstands : Withstands surroundings (Parting request.uuid) (Fetches request.uuid)
        Untested := untested_withstands fun impossible => impossible
    refine ensures_mono (withstands.ensures (attempt_always policy request)
      (fun _ fetches => fetches) untested) ?_
    rintro (_ | _) later ended <;> exact ended.2
  deploying state untested := by
    have withstands : Withstands surroundings (Parting request.uuid)
        (Announces request.uuid [.deploying]) Untested :=
      untested_withstands fun impossible => impossible
    exact ensures_mono (withstands.ensures (phase_always (.head [])) (fun _ announces => announces)
      untested) fun _ _ ended => ended.2
  handOver _ untested := handOver_parts policy untested
  finish _ untested := by
    have withstands : Withstands surroundings (Parting request.uuid)
        (· = .shared (.slot .finish)) Untested := untested_withstands (by simp)
    exact withstands.ensures_ask _ rfl untested fun _ _ _ _ _ => trivial

end Installing

section PuttingAway

variable {held : Record → Prop} {call : Agent.Call}

def Scene.Granted (held : Record → Prop) (scene : Scene) : Prop :=
  scene.history.any Happening.isRefusal = false → held scene.settings.record

/-- Only storing changes what was granted. -/
theorem granted_withstands :
    Withstands surroundings (fun _ _ => True) (¬ ·.Stores) (Granted held) where
  stable := by
    rintro before after rfl granted unrefused
    exact granted (by simpa [Scene.cancel, Happening.isRefusal] using unrefused)
  kept call unstored := by
    intro before reply after answers granted unrefused
    rw [history_of_answers answers, List.any_append, Bool.or_eq_false_iff] at unrefused
    rw [settings_of_answers answers unstored]
    exact granted unrefused.1
  guarded _ _ _ _ := trivial

theorem granted_log (record : Log.Record) : ¬ (Agent.Call.device (.log record)).Stores :=
  fun impossible => impossible

/-- A call that puts something away, or is refused. -/
theorem puts_ensures (call : Device.Call) (read : Device.Reply call → Except Failure Unit)
    {cause : SettingsError} {complaint : String} {before : Record → Prop}
    (answered : ∀ reply (settings changed : SettingsTable), call.Answered settings reply changed →
      (Happening.exchange (.device call) reply).isRefusal = true ∨
        (before settings.record → held changed.record))
    {scene : Scene} (granted : scene.Granted before) :
    scene.Ends (fun _ later => later.Granted held)
      (.ask (.device call) fun reply => Record.orFail cause complaint (read reply)) := by
  refine ensures_ask granted_withstands.stable granted (fun _ _ => trivial) ?_
  rintro earlier reply _ granted ⟨settings, changed, rfl⟩
  have still : Granted held
      ⟨settings, earlier.slot, earlier.history ++ [.exchange (.device call) reply]⟩ := by
    intro unrefused
    rw [List.any_append, Bool.or_eq_false_iff] at unrefused
    rcases answered reply _ _ changed with refused | puts
    · simp [refused] at unrefused
    · exact puts (granted unrefused.1)
  refine ensures_mono (granted_withstands.ensures (orFail_always granted_log cause complaint _)
    (fun _ unstored => unstored) still) ?_
  exact fun _ _ ended => ended.2

theorem deleteId_granted (scene : Scene) :
    scene.Ends (fun _ later => later.Granted (·.id = none)) Record.deleteId := by
  have anything : scene.Granted fun _ => True := fun _ => trivial
  refine puts_ensures (.delete Record.space Record.idKey) (fun reply => reply) ?_ anything
  intro reply settings changed answered
  cases reply with
  | error failure => exact .inl rfl
  | ok value =>
      obtain rfl : changed = settings.delete Record.space Record.idKey := answered
      exact .inr fun _ => by rw [SettingsTable.record_delete_id]

theorem saveIdle_granted {scene : Scene} (granted : scene.Granted (·.id = none)) :
    scene.Ends (fun _ later => later.Granted (· = ⟨.idle, none⟩)) (Record.saveStage .idle) := by
  refine puts_ensures (.save Record.space Record.stageKey [Stage.idle.byte]) (fun reply => reply) ?_
    granted
  intro reply settings changed answered
  cases reply with
  | error failure => exact .inl (by simp [Happening.isRefusal])
  | ok value =>
      obtain rfl : changed = settings.save Record.space Record.stageKey [Stage.idle.byte] :=
        answered
      exact .inr fun forgotten => by rw [SettingsTable.record_save_stage, forgotten]

theorem reset_granted (scene : Scene) :
    scene.Ends (fun _ later => later.Granted (· = ⟨.idle, none⟩)) Record.reset := by
  simp only [Record.reset, bind_eq, pure_eq_done]
  refine ensures_bind (deleteId_granted scene) ?_
  intro deleted later granted
  refine ensures_bind (saveIdle_granted granted) ?_
  intro saved later granted
  cases saved <;> exact ensures_done granted_withstands.stable granted fun _ holds => holds

structure Scene.Freed (scene : Scene) : Prop where
  slot : scene.slot = .idle
  record : scene.Granted (· = ⟨.idle, none⟩)

theorem stable_freed : surroundings.Stable Freed := by
  rintro before after rfl freed
  refine ⟨?_, granted_withstands.stable _ _ rfl freed.record⟩
  rw [Scene.cancel, freed.slot]
  rfl

theorem finish_freed {α : Type} (value : α) {scene : Scene}
    (granted : scene.Granted (· = ⟨.idle, none⟩)) :
    scene.Ends (fun result later => result = value ∧ later.Freed)
      (.ask (.shared (.slot .finish)) fun _ => .done value : Agent α) := by
  refine ensures_ask granted_withstands.stable granted (fun _ _ => trivial) ?_
  intro before reply after granted answers
  have still := granted_withstands.kept (.shared (.slot .finish)) (fun impossible => impossible)
    before reply after answers granted
  obtain ⟨_, same⟩ := answers
  have idle : after.slot = .idle := by
    rw [same]
    cases before.slot <;> rfl
  exact ensures_done stable_freed ⟨idle, still⟩ fun _ freed => ⟨rfl, freed⟩

theorem conclude_freed (outcome : Outcome) (scene : Scene) :
    scene.Ends (fun result later => result = outcome ∧ later.Freed)
      (Installation.conclude outcome) := by
  simp only [Installation.conclude, discard_eq_bind, Agent.slot, Agent.shared, Agent.log,
    Agent.device, bind_eq, ask_bind, done_bind, pure_eq_done]
  refine ensures_bind (reset_granted scene) ?_
  intro result later granted
  cases result with
  | ok value => exact finish_freed outcome granted
  | error error =>
      refine granted_withstands.ensures_ask _ (granted_log _) granted ?_
      exact fun _ _ granted => finish_freed outcome granted

/-- Unwinding frees the slot and puts the record away, whatever the installation had come to. -/
theorem unwind_freed (scene : Scene) :
    scene.Ends (fun _ later => later.Freed) Installation.unwind := by
  have anything : scene.Granted fun _ => True := fun _ => trivial
  simp only [Installation.unwind, discard_eq_bind, Agent.slot, Agent.shared, Agent.log,
    Agent.device, bind_eq, ask_bind, done_bind, Program.bind_assoc]
  refine granted_withstands.ensures_ask _ (fun impossible => impossible) anything ?_
  intro _ later anything
  refine granted_withstands.ensures_ask _ (granted_log _) anything ?_
  intro _ later _
  refine ensures_bind (reset_granted later) ?_
  intro _ later granted
  exact ensures_mono (finish_freed () granted) fun _ _ ended => ended.2

theorem unwinds (broken : Scene) (fresh : broken.history = []) :
    ∃ last, broken.Unwinds last := by
  obtain ⟨settings, slot, history⟩ := broken
  cases fresh
  let trial : Trial := ⟨{ Bench.fresh with settings := settings }, slot, []⟩
  refine ⟨_, @leads_run Agent.interface Unit surroundings Trial Trial.scene
    (Trial.answerUntil fun _ => false) (Trial.answerUntil_faithful fun _ => false) _ trial, ?_⟩
  rfl

end PuttingAway

section Verdict

variable {policy : Policy} {request : Request} {settings : SettingsTable} {call : Device.Call}
  {reached broken : Scene}

theorem departs_of_panics (panics : Panics policy request settings call reached broken)
    (tested : ¬ reached.Untested) : (Agent.Call.device call).Departs request.uuid := by
  obtain ⟨⟨next, leads⟩, _⟩ := panics
  have ensured := ensures_leads leads
    ((parting_itinerary policy request).run_ensures (untested_opening settings))
  exact ensured.guarded tested

/-- Unwinding comes to its end, with a free slot and an idle record. So the record agrees with the
bootloader just when no trial has been accepted; and what panicked after one was accepted is a call
of the farewell. -/
theorem unwound_agrees_iff (panics : Panics policy request settings call reached broken) :
    (∃ last, broken.Unwinds last) ∧
      (∀ last, broken.Unwinds last → last.slot = .idle ∧ last.settings.record = ⟨.idle, none⟩ ∧
        (Agrees request reached last ↔ reached.Untested)) ∧
      (¬ reached.Untested → (Agent.Call.device call).Departs request.uuid) := by
  have departs := departs_of_panics panics
  obtain ⟨_, reply, changed, _, rfl⟩ := panics
  refine ⟨unwinds _ rfl, ?_, departs⟩
  rintro last ⟨leads, unrefused⟩
  have freed := (ensures_leads leads (unwind_freed _)).ended
  have record := freed.record unrefused
  refine ⟨freed.slot, record, ?_⟩
  rw [Agrees, Untested, record]
  cases reached.history.any Happening.isTest <;> simp

end Verdict

section Announcing

def Agent.announces {α : Type} (phase : Phase) : Agent α → Bool
  | .ask (.device (.publish event)) _ => event.status = phase.status
  | _ => false

theorem Agent.ask_of_announces {α : Type} {phase : Phase} {program : Agent α}
    (announces : program.announces phase = true) :
    ∃ event next, program = .ask (.device (.publish event)) next := by
  unfold Agent.announces at announces
  split at announces
  · exact ⟨_, _, rfl⟩
  · contradiction

namespace Trial

def answerBefore (phase : Phase) : (call : Agent.Call) → Trial → Option (Agent.Reply call × Trial)
  | .device (.publish event), trial =>
      if event.status = phase.status then none
      else some (answer (.device (.publish event)) trial)
  | call, trial => some (answer call trial)

theorem answers_of_answerBefore {phase : Phase} (call : Agent.Call) (before : Trial)
    (reply : Agent.Reply call) (after : Trial)
    (answered : answerBefore phase call before = some (reply, after)) :
    surroundings.Answers call before.scene reply after.scene := by
  have told : (reply, after) = answer call before := by
    unfold answerBefore at answered
    split at answered
    · split at answered
      · contradiction
      · exact (Option.some.inj answered).symm
    · exact (Option.some.inj answered).symm
  have answers := answers call before
  rw [← told] at answers
  exact answers

def upTo (phase : Phase) : Agent Outcome × Trial :=
  (Installation.run .standard .sample).advance (answerBefore phase) (opening [.single])

theorem panics_upTo (phase : Phase) (announces : (upTo phase).1.announces phase = true) :
    ∃ event broken, Panics .standard .sample .empty (.publish event) (upTo phase).2.scene
      broken := by
  obtain ⟨event, next, same⟩ := Agent.ask_of_announces announces
  have leads := leads_advance surroundings scene (answerBefore phase) answers_of_answerBefore
    (Installation.run .standard .sample) (opening [.single])
  exact ⟨event, _, ⟨next, same ▸ leads⟩, .ok (), _, rfl, rfl⟩

end Trial

/-- A trial that was accepted is forgotten when its announcement panics. -/
theorem unwound_trial_forgotten :
    ∃ call reached broken last, Panics .standard .sample .empty call reached broken ∧
      broken.Unwinds last ∧ ¬ Agrees .sample reached last := by
  obtain ⟨event, broken, panics⟩ := Trial.panics_upTo .deployed (by decide +kernel)
  have tested : (Trial.upTo .deployed).2.scene.history.any Happening.isTest = true := by
    decide +kernel
  obtain ⟨last, leads, unrefused⟩ : ∃ last, broken.Unwinds last := by
    obtain ⟨_, _, _, _, rfl⟩ := panics
    exact unwinds _ rfl
  have record := (ensures_leads leads (unwind_freed _)).ended.record unrefused
  refine ⟨_, _, _, last, panics, ⟨leads, unrefused⟩, ?_⟩
  rw [Agrees, if_pos tested, record]
  rintro ⟨id, _, impossible⟩
  cases impossible

theorem unwound_agrees_iff_announcing :
    ∃ call reached broken, Panics .standard .sample .empty call reached broken ∧
      (∃ last, broken.Unwinds last) ∧
      (∀ last, broken.Unwinds last → last.slot = .idle ∧ last.settings.record = ⟨.idle, none⟩ ∧
        (Agrees .sample reached last ↔ reached.Untested)) ∧
      (¬ reached.Untested → (Agent.Call.device call).Departs Request.sample.uuid) := by
  obtain ⟨event, broken, panics⟩ := Trial.panics_upTo .rebooting (by decide +kernel)
  exact ⟨_, _, _, panics, unwound_agrees_iff panics⟩

end Announcing

end DualBank
