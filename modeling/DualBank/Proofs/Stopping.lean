import DualBank.Proofs.Rechecking

/-! How an accepted cancel shows in what an installation has done: every later look tells to stop,
what comes after such a look subsides, and nothing was deployed. -/

namespace DualBank

open Program Surroundings Cancellation Scene Agent.Call
open Happening (look)

theorem not_deploys_of_subsides {call : Agent.Call} (subsides : call.Subsides) :
    ¬ call.Deploys := by
  intro deploys
  unfold Deploys at deploys
  split at deploys
  · rcases subsides with cleared | impossible
    · exact absurd (cleared.2.2.symm.trans deploys.2.2) (by decide)
    · cases impossible
  · rcases subsides with impossible | impossible <;> cases impossible
  · rcases subsides with impossible | impossible <;> cases impossible
  · rcases subsides with impossible | impossible <;> cases impossible
  · rcases subsides with impossible | impossible <;> cases impossible
  · exact deploys

namespace Cancellation

variable {history : List Happening} {happening : Happening}

def Undeployed (history : List Happening) : Prop :=
  ∀ call reply, .exchange call reply ∈ history → ¬ Deploys call

def Dutiful (history : List Happening) : Prop :=
  ∀ earlier running later, history = earlier ++ look running :: later → Accepted earlier →
    running = false ∧ ∀ call reply, .exchange call reply ∈ later → Subsides call

theorem undeployed_append (undeployed : Undeployed history)
    (other : ∀ call reply, happening = .exchange call reply → ¬ Deploys call) :
    Undeployed (history ++ [happening]) := by
  intro call reply inside
  rcases List.mem_append.1 inside with before | last
  · exact undeployed call reply before
  · exact other call reply (List.mem_singleton.1 last).symm

theorem undeployed_of_append (undeployed : Undeployed (history ++ [happening])) :
    Undeployed history :=
  fun call reply inside => undeployed call reply (List.mem_append_left _ inside)

theorem dutiful_append (dutiful : Dutiful history)
    (told : Accepted history → ∀ running, happening = look running → running = false)
    (stays : Heard history → ∀ call reply, happening = .exchange call reply → Subsides call) :
    Dutiful (history ++ [happening]) := by
  intro earlier running later parts accepted
  rcases List.eq_nil_or_concat later with rfl | ⟨init, last, rfl⟩
  · obtain ⟨rfl, same⟩ := List.append_inj' parts rfl
    refine ⟨told accepted running (List.singleton_inj.1 same), ?_⟩
    exact fun call reply inside => absurd inside List.not_mem_nil
  · rw [List.concat_eq_append, ← List.cons_append, ← List.append_assoc] at parts
    obtain ⟨rfl, same⟩ := List.append_inj' parts rfl
    obtain ⟨stopped, subsided⟩ := dutiful earlier running init rfl accepted
    refine ⟨stopped, fun call reply inside => ?_⟩
    rcases List.mem_append.1 (List.concat_eq_append ▸ inside) with before | after
    · exact subsided call reply before
    · refine stays ⟨earlier, running, init, rfl, accepted⟩ call reply ?_
      exact (List.singleton_inj.1 same).trans (List.mem_singleton.1 after).symm

end Cancellation

abbrev Agent.Call.Startless (call : Agent.Call) : Prop :=
  call ≠ .shared (.slot .start)

section Slot

variable {call : Agent.Call} {before after scene : Scene} {reply : Agent.interface.Reply call}

theorem Slot.apply_ne_running {slot : Slot} {operation : Slot.Operation}
    (other : operation ≠ .start) (stopped : slot ≠ .running) :
    (slot.apply operation).2 ≠ .running := by
  cases operation <;> cases slot <;> first | decide | contradiction

theorem stopped_of_answers (answers : surroundings.Answers call before reply after)
    (startless : call.Startless) (stopped : before.slot ≠ .running) :
    after.slot ≠ .running := by
  change Scene.Answers call before reply after at answers
  unfold Scene.Answers at answers
  split at answers
  · obtain ⟨settings, _, rfl⟩ := answers
    exact stopped
  · obtain ⟨_, rfl⟩ := answers
    exact Slot.apply_ne_running (fun start => startless (start ▸ rfl)) stopped
  · subst answers
    exact stopped

theorem stopped_of_look {running : Bool}
    (answers : surroundings.Answers (.shared (.slot .isRunning)) before running after) :
    running = false ↔ before.slot ≠ .running := by
  rw [answers.1]
  cases before.slot <;> decide

end Slot

theorem run_startless (policy : Policy) (request : Request) :
    (Installation.run policy request).Always Agent.Call.Startless fun _ => True := by
  have works {α : Type} {program : Agent α} (always : program.Always Works fun _ => True) :
      program.Always Agent.Call.Startless fun _ => True := by
    refine always_mono always ?_ fun _ _ => trivial
    rintro call (apart | rfl)
    · rintro rfl
      exact apart
    · simp
  have concludes (outcome : Outcome) :
      (Installation.conclude outcome).Always Agent.Call.Startless fun _ => True := by
    refine always_mono (conclude_always outcome) ?_ fun _ _ => trivial
    rintro call (clears | rfl)
    · rintro rfl
      exact clears
    · simp
  simp only [Installation.run, Agent.log, Agent.device, bind_eq, ask_bind, done_bind, pure_eq_done]
  refine always_bind (works (announcing_works (phase_always (.head [])))) fun _ _ => ?_
  refine ⟨by simp, fun _ => always_bind (works (execute_works policy request)) fun result _ => ?_⟩
  split
  · trivial
  · exact ⟨by simp, fun _ => concludes .canceled⟩
  · refine ⟨by simp, fun _ => ?_⟩
    exact always_bind (works (announcing_works (error_always (.head []) _)))
      fun _ _ => concludes _

structure Scene.Obeys (policy : Policy) (request : Request) (rest : Agent Outcome) (scene : Scene) :
    Prop where
  stopped : Accepted scene.history → scene.slot ≠ .running
  dutiful : Dutiful scene.history
  startless : rest.Always Agent.Call.Startless fun _ => True
  heeds : ¬ Heard scene.history ∧ rest.Heeds (· = .canceled) ∨
    scene.slot ≠ .running ∧ rest.Subsiding (· = .canceled)
  watches : Undeployed scene.history ∧ rest.Watches policy request ∨
    ¬ Undeployed scene.history ∧ ¬ Heard scene.history ∧ rest.Always Trails fun _ => True

namespace Scene

variable {policy : Policy} {request : Request}

theorem obeys_opening (settings : SettingsTable) :
    (opening settings).Obeys policy request (Installation.run policy request) := by
  have unheard := (unheard_opening settings).unheard
  refine ⟨?_, ?_, run_startless policy request, .inl ⟨unheard, run_heeds policy request⟩,
    .inl ⟨?_, run_watches policy request⟩⟩
  · exact fun accepted => absurd accepted List.not_mem_nil
  · intro earlier running later parts _
    simp [opening] at parts
  · exact fun call reply inside => absurd inside List.not_mem_nil

theorem obeys_cancel {scene : Scene} {rest : Agent Outcome}
    (obeys : scene.Obeys policy request rest) : scene.cancel.Obeys policy request rest := by
  have unheard (holds : ¬ Heard scene.history) : ¬ Heard scene.cancel.history :=
    fun heard => holds (heard_cancel.1 heard)
  have stops (stopped : scene.slot ≠ .running) : scene.cancel.slot ≠ .running :=
    Slot.apply_ne_running (by simp) stopped
  refine ⟨fun _ => Slot.apply_cancel_ne_running scene.slot, ?_, obeys.startless, ?_, ?_⟩
  · exact dutiful_append obeys.dutiful (fun _ _ impossible => by cases impossible)
      fun _ _ _ impossible => by cases impossible
  · exact obeys.heeds.imp (fun ⟨holds, heeds⟩ => ⟨unheard holds, heeds⟩)
      fun ⟨stopped, subsiding⟩ => ⟨stops stopped, subsiding⟩
  · refine obeys.watches.imp (fun ⟨undeployed, watches⟩ => ⟨?_, watches⟩)
      fun ⟨deployed, holds, trails⟩ =>
        ⟨fun undeployed => deployed (undeployed_of_append undeployed), unheard holds, trails⟩
    exact undeployed_append undeployed fun _ _ impossible => by cases impossible

theorem obeys_answer {call : Agent.Call} {next : Agent.interface.Reply call → Agent Outcome}
    {before after : Scene} {reply : Agent.interface.Reply call}
    (answers : surroundings.Answers call before reply after)
    (obeys : before.Obeys policy request (.ask call next)) :
    after.Obeys policy request (next reply) := by
  have startless := obeys.startless.1
  have history := history_of_answers answers
  have stays : Heard before.history → call.Subsides := by
    intro heard
    rcases obeys.heeds with ⟨unheard, _⟩ | ⟨_, subsiding⟩
    · exact absurd heard unheard
    · exact subsiding.1
  refine ⟨?_, ?_, obeys.startless.2 reply, ?_, ?_⟩
  · intro accepted
    have asked := (accepted_of_answers answers).1 accepted
    exact stopped_of_answers answers startless (obeys.stopped asked)
  · rw [history]
    refine dutiful_append obeys.dutiful (fun accepted running same => ?_) fun heard _ _ same => ?_
    · cases same
      exact (stopped_of_look answers).2 (obeys.stopped accepted)
    · cases same
      exact stays heard
  · rcases obeys.heeds with ⟨unheard, heeds⟩ | ⟨stopped, subsiding⟩
    · by_cases told : Happening.exchange call reply = look false
      · cases told
        refine .inr ⟨?_, (heeds false).1 rfl⟩
        exact stopped_of_answers answers startless ((stopped_of_look answers).1 rfl)
      · refine .inl ⟨fun heard => ?_, (heeds reply).2 told⟩
        rw [history, heard_append] at heard
        rcases heard with heard | ⟨accepted, running, same⟩
        · exact unheard heard
        · cases same
          rw [(stopped_of_look answers).2 (obeys.stopped accepted)] at told
          exact told rfl
    · refine .inr ⟨stopped_of_answers answers startless stopped, subsiding.2 reply fun same => ?_⟩
      cases same
      exact absurd ((stopped_of_look answers).2 stopped) (by decide)
  · rcases obeys.watches with ⟨undeployed, watches⟩ | ⟨deployed, unheard, trails⟩
    · by_cases deploys : call.Deploys
      · refine .inr ⟨fun still => ?_, fun heard => ?_, (watches.2 reply).1 deploys⟩
        · rw [history] at still
          exact still call reply (List.mem_append_right _ (List.mem_singleton_self _)) deploys
        have blind : call ≠ .shared (.slot .isRunning) := by
          rintro rfl
          exact deploys
        exact not_deploys_of_subsides (stays ((heard_of_answers answers blind).1 heard)) deploys
      · refine .inl ⟨?_, (watches.2 reply).2 deploys⟩
        rw [history]
        refine undeployed_append undeployed fun _ _ same => ?_
        cases same
        exact deploys
    · refine .inr ⟨fun still => ?_, fun heard => unheard ((heard_of_answers answers ?_).1 heard),
        trails.2 reply⟩
      · rw [history] at still
        exact deployed (undeployed_of_append still)
      · rintro rfl
        exact trails.1

theorem obeys_leads {settings : SettingsTable} {rest : Agent Outcome} {scene : Scene}
    (leads : surroundings.Leads (Installation.run policy request, opening settings) (rest, scene)) :
    scene.Obeys policy request rest := by
  refine invariant_leads (fun rest later => Obeys policy request rest later) ?_ ?_
    (obeys_opening settings) leads
  · rintro rest before after rfl obeys
    exact obeys_cancel obeys
  · exact fun call next before reply after answers obeys => obeys_answer answers obeys

theorem heard_leads {rest onward : Agent Outcome} {scene later : Scene}
    (leads : surroundings.Leads (rest, scene) (onward, later)) (heard : Heard scene.history) :
    Heard later.history := by
  refine invariant_leads (fun _ (later : Scene) => Heard later.history) ?_ ?_ heard leads
  · rintro _ before after rfl heard
    exact heard_cancel.2 heard
  · intro call next before reply after answers heard
    rw [history_of_answers answers]
    exact heard_append.2 (.inl heard)

def Rechecks {α : Type} (part : Agent α) (back : α → Agent Outcome) (scene : Scene) : Prop :=
  ∀ rest later, surroundings.Leads (part, scene) (rest, later) →
    (∃ outcome last, surroundings.Leads (rest.bind back, later) (.done outcome, last)) ∧
      ∀ outcome last, surroundings.Leads (rest.bind back, later) (.done outcome, last) →
        ∃ more running, last.history = later.history ++ more ∧ look running ∈ more

theorem ends (program : Agent Outcome) (scene : Scene) :
    ∃ outcome last, surroundings.Leads (program, scene) (.done outcome, last) := by
  obtain ⟨settings, slot, history⟩ := scene
  let trial : Trial := ⟨{ Bench.fresh with settings := settings }, slot, history⟩
  exact ⟨_, _, @leads_run Agent.interface Outcome surroundings Trial Trial.scene
    (Trial.answerUntil fun _ => false) (Trial.answerUntil_faithful fun _ => false) program trial⟩

def Looking (before : Scene) (rest : Agent Outcome) (scene : Scene) : Prop :=
  ∃ more, scene.history = before.history ++ more ∧ (rest.Looks ∨ ∃ running, look running ∈ more)

theorem looked_of_looks {program : Agent Outcome} (looks : program.Looks) {before last : Scene}
    {outcome : Outcome} (leads : surroundings.Leads (program, before) (.done outcome, last)) :
    ∃ more running, last.history = before.history ++ more ∧ look running ∈ more := by
  have looking : before.Looking program before := ⟨[], by simp, .inl looks⟩
  have kept : before.Looking (.done outcome) last := by
    refine invariant_leads before.Looking ?_ ?_ looking leads
    · rintro rest earlier later rfl ⟨more, same, looks⟩
      refine ⟨more ++ [.cancel (earlier.slot.apply .cancel).1], by simp [cancel, same], ?_⟩
      exact looks.imp_right (Exists.imp fun _ inside => List.mem_append_left _ inside)
    · rintro call next earlier reply later answers ⟨more, same, looks⟩
      refine ⟨more ++ [.exchange call reply], by simp [history_of_answers answers, same], ?_⟩
      rcases looks with (rfl | onward) | ⟨running, inside⟩
      · exact .inr ⟨reply, List.mem_append_right _ (List.mem_singleton_self _)⟩
      · exact .inl (onward reply)
      · exact .inr ⟨running, List.mem_append_left _ inside⟩
  obtain ⟨more, same, impossible | ⟨running, inside⟩⟩ := kept
  · exact impossible.elim
  · exact ⟨more, running, same, inside⟩

theorem rechecks_of_looks {α : Type} {part : Agent α} {back : α → Agent Outcome}
    (looks : ∀ value, (back value).Looks) (scene : Scene) : scene.Rechecks part back :=
  fun _ later _ => ⟨ends _ later, fun _ _ => looked_of_looks (looks_bind looks)⟩

end Scene

/-- Every look after an accepted cancel tells to stop. After such a look nothing is written or
begun, nothing is ever deployed, and the run can end, and then ends as canceled. During a download,
a pause between attempts and the announcement of an error there is always such a look still to
come. -/
theorem cancel_obeyed (policy : Policy) (request : Request) (settings : SettingsTable)
    {rest : Agent Outcome} {scene : Scene}
    (leads : surroundings.Leads (Installation.run policy request, opening settings) (rest, scene)) :
    Dutiful scene.history ∧
    (Heard scene.history → Undeployed scene.history ∧
      (∃ last, surroundings.Leads (rest, scene) (.done .canceled, last)) ∧
      ∀ outcome last, surroundings.Leads (rest, scene) (.done outcome, last) →
        outcome = .canceled) ∧
    (∀ url headers timeout next, rest = .ask (.device (.download url headers timeout)) next →
      ∃ back, rest = (Installation.transfer policy request).bind back ∧
        scene.Rechecks (Installation.transfer policy request) back) ∧
    (∀ milliseconds next, rest = .ask (.device (.sleep milliseconds)) next →
      Undeployed scene.history → scene.Rechecks (Agent.device (.sleep milliseconds)) next) ∧
    ∀ event next, rest = .ask (.device (.publish event)) next →
      event.status = Phase.error.status → scene.Rechecks (Agent.device (.publish event)) next := by
  have obeys : scene.Obeys policy request rest := obeys_leads leads
  refine ⟨obeys.dutiful, fun heard => ?_, ?_, ?_, ?_⟩
  · have undeployed : Undeployed scene.history := by
      rcases obeys.watches with ⟨undeployed, _⟩ | ⟨_, unheard, _⟩
      · exact undeployed
      · exact absurd heard unheard
    have canceled (outcome : Outcome) (last : Scene)
        (onward : surroundings.Leads (rest, scene) (.done outcome, last)) :
        outcome = .canceled := by
      rcases (obeys_leads (leads.trans onward)).heeds with ⟨unheard, _⟩ | ⟨_, canceled⟩
      · exact absurd (heard_leads onward heard) unheard
      · exact canceled
    obtain ⟨outcome, last, onward⟩ := ends rest scene
    have ended := canceled outcome last onward
    subst ended
    exact ⟨undeployed, ⟨last, onward⟩, canceled⟩
  · rintro url headers timeout next rfl
    rcases obeys.watches with ⟨_, watches⟩ | ⟨_, _, trails⟩
    · obtain ⟨back, same, looks⟩ := watches.1.download url headers timeout next rfl
      exact ⟨back, same, rechecks_of_looks looks scene⟩
    · exact trails.1.elim
  · rintro milliseconds next rfl undeployed
    rcases obeys.watches with ⟨_, watches⟩ | ⟨deployed, _⟩
    · exact rechecks_of_looks (watches.1.sleep milliseconds next rfl) scene
    · exact absurd undeployed deployed
  · rintro event next rfl error
    rcases obeys.watches with ⟨_, watches⟩ | ⟨_, _, trails⟩
    · exact rechecks_of_looks (watches.1.error event next rfl error) scene
    · exact absurd error trails.1

section Midway

def Happening.isLook : Happening → Bool
  | .exchange (.shared (.slot .isRunning)) _ => true
  | _ => false

theorem heard_of_cut {history : List Happening} (count : Nat)
    (accepted : Accepted (history.take count))
    (looked : (history.drop count).any Happening.isLook = true) : Heard history := by
  obtain ⟨happening, inside, looks⟩ := List.any_eq_true.1 looked
  obtain ⟨between, later, parts⟩ := List.append_of_mem inside
  unfold Happening.isLook at looks
  split at looks
  · rename_i running
    refine ⟨history.take count ++ between, running, later, ?_, List.mem_append_left _ accepted⟩
    calc history = history.take count ++ history.drop count := (List.take_append_drop ..).symm
      _ = history.take count ++ between ++ look running :: later := by
        rw [parts, List.append_assoc]
        rfl
  · contradiction

def Agent.Call.writes : Agent.Call → Bool
  | .device (.write ..) => true
  | _ => false

theorem cancel_obeyed_midway :
    ∃ scene : Scene,
      surroundings.Leads (Installation.run .standard .sample, opening .empty)
        (.done .canceled, scene) ∧
      Heard scene.history ∧ Dutiful scene.history ∧ Undeployed scene.history := by
  have canceled : (Trial.install .single Agent.Call.writes).1 = .canceled := by decide +kernel
  have heard : Heard (Trial.install .single Agent.Call.writes).2.history :=
    heard_of_cut 17 (by decide +kernel) (by decide +kernel)
  have leads := Trial.leads_install .single Agent.Call.writes
  rw [canceled] at leads
  obtain ⟨dutiful, told, _⟩ := cancel_obeyed _ _ _ leads
  exact ⟨_, leads, heard, dutiful, (told heard).1⟩

end Midway

end DualBank
