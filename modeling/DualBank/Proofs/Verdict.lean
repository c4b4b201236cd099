import DualBank.Admission
import DualBank.Proofs.Hearing
import DualBank.Proofs.Relapse
import DualBank.Proofs.Site
import DualBank.Proofs.Transcript
import DualBank.Proofs.Unwinding

/-! What settling a record comes to, for everything that can be stored and everything the bootloader
can say: what it asks, what it announces, and what it always leaves behind. -/

namespace DualBank

open Program Surroundings Scene

structure BootReport where
  swap : SwapType
  confirmed : Bool
  confirming : Except FlashError Unit

namespace BootReport

structure Given (report : BootReport) (history : List Happening) : Prop where
  swap : ∀ reply, .exchange (.device .swapType) reply ∈ history → reply = report.swap
  confirmed : ∀ reply, .exchange (.device .isConfirmed) reply ∈ history →
    reply = report.confirmed
  confirming : ∀ reply, .exchange (.device .confirm) reply ∈ history → reply = report.confirming

def agrees (report : BootReport) : Happening → Bool
  | .exchange (.device .swapType) reply => reply = report.swap
  | .exchange (.device .isConfirmed) reply => reply = report.confirmed
  | .exchange (.device .confirm) reply => reply = report.confirming
  | _ => true

def awaits (report : BootReport) : Bool :=
  report.swap = .none && !report.confirmed

def asked (report : BootReport) (stage : Stage) : List Happening :=
  if stage = .pendingReboot then
    .exchange (.device .swapType) report.swap ::
      if report.swap = .none then
        .exchange (.device .isConfirmed) report.confirmed ::
          if report.confirmed then [] else [.exchange (.device .confirm) report.confirming]
      else []
  else []

def verdict (report : BootReport) (stage : Stage) (id : RequestId) : Resolution :=
  if stage = .pendingReboot then
    if report.awaits then
      match report.confirming with
      | .ok () => .confirmed id
      | .error _ => .failed id .internal
    else .failed id .swapFail
  else .failed id .internal

theorem Given.subset {report : BootReport} {history part : List Happening}
    (given : report.Given history) (within : part ⊆ history) : report.Given part where
  swap reply inside := given.swap reply (within inside)
  confirmed reply inside := given.confirmed reply (within inside)
  confirming reply inside := given.confirming reply (within inside)

theorem given_iff {report : BootReport} {history : List Happening} :
    report.Given history ↔ ∀ happening ∈ history, report.agrees happening = true := by
  constructor
  · intro given happening inside
    unfold agrees
    split
    · exact decide_eq_true (given.swap _ inside)
    · exact decide_eq_true (given.confirmed _ inside)
    · exact decide_eq_true (given.confirming _ inside)
    · rfl
  · intro agree
    exact ⟨fun _ inside => of_decide_eq_true (agree _ inside),
      fun _ inside => of_decide_eq_true (agree _ inside),
      fun _ inside => of_decide_eq_true (agree _ inside)⟩

/-- Whatever is asked next, there is an answer that leaves the report true. -/
theorem exists_agreeing (report : BootReport) (call : Agent.Call) (scene : Scene) :
    ∃ reply after, surroundings.Answers call scene reply after ∧
      report.agrees (.exchange call reply) = true := by
  have answered (call : Device.Call) : ∃ reply settings,
      call.Answered scene.settings reply settings ∧
        report.agrees (.exchange (.device call) reply) = true := by
    cases call with
    | swapType => exact ⟨report.swap, scene.settings, rfl, decide_eq_true rfl⟩
    | isConfirmed => exact ⟨report.confirmed, scene.settings, rfl, decide_eq_true rfl⟩
    | confirm => exact ⟨report.confirming, scene.settings, rfl, decide_eq_true rfl⟩
    | _ => exact ⟨_, _, Trial.answered _ { Bench.fresh with settings := scene.settings }, rfl⟩
  cases call with
  | device call =>
      obtain ⟨reply, settings, answered, agrees⟩ := answered call
      exact ⟨reply, _, ⟨settings, answered, rfl⟩, agrees⟩
  | shared call =>
      cases call with
      | slot operation => exact ⟨_, _, ⟨rfl, rfl⟩, rfl⟩
      | notify notification => exact ⟨(), _, rfl, rfl⟩
      | launch policy request => exact ⟨(), _, rfl, rfl⟩
  | join => exact ⟨.nothing, _, rfl, rfl⟩

/-- A program can come to its end without anything but the report being said. -/
theorem exists_end {α : Type} (report : BootReport) (program : Agent α) {scene : Scene}
    (given : report.Given scene.history) :
    ∃ value last, surroundings.Leads (program, scene) (.done value, last) ∧
      report.Given last.history := by
  induction program generalizing scene with
  | done value => exact ⟨value, scene, .refl, given⟩
  | ask call next ih =>
      obtain ⟨reply, after, answers, agrees⟩ := report.exists_agreeing call scene
      have still : report.Given after.history := by
        rw [history_of_answers answers, given_iff, List.forall_mem_append]
        exact ⟨given_iff.1 given, List.forall_mem_singleton.2 agrees⟩
      obtain ⟨value, last, onward, given⟩ := ih reply still
      exact ⟨value, last, .head (.answer answers) onward, given⟩

end BootReport

def Resolution.Announced (time : Int64) (event : Event) : Resolution → Prop
  | .nothingPending => False
  | .confirmed id => event = .compose id.text .success 0 none "" time
  | .failed id error => event = .compose id.text .failure 0 (some error) "" time

section Settling

variable {deeds : List Happening} {resolution : Resolution} {id : RequestId} {error : UpdateError}

theorem fail_does (does : (Resolution.fail id error).Does deeds resolution) :
    resolution = .failed id error ∧ ∃ time reply,
      deeds = [.exchange
        (.device (.publish (.compose id.text .failure 0 (some error) "" time))) reply] := by
  obtain ⟨time, reply, _, rfl, rfl, rfl⟩ := does_announced does
  exact ⟨rfl, time, reply, rfl⟩

/-- What settling a record with an id does: it asks what its stage asks for, and announces what came
of it. -/
theorem resolve_does {report : BootReport} {stage : Stage}
    (does : (Resolution.resolve ⟨stage, some id⟩).Does deeds resolution)
    (given : report.Given deeds) :
    resolution = report.verdict stage id ∧ ∃ time event reply, resolution.Announced time event ∧
      deeds = report.asked stage ++ [.exchange (.device (.publish event)) reply] := by
  obtain ⟨swap, confirmed, confirming⟩ := report
  simp only [Resolution.resolve, Agent.log, Agent.device, bind_eq, ask_bind, done_bind,
    pure_eq_done] at does
  have settles := does_log.1 does
  by_cases due : stage = .pendingReboot
  · rw [if_pos due] at settles
    subst due
    obtain ⟨told, onward, rfl, swaps⟩ := settles
    obtain rfl : told = swap := given.swap told (List.mem_cons_self ..)
    by_cases outstanding : told = .none
    · subst outstanding
      obtain ⟨told, _, rfl, checks⟩ := swaps
      obtain rfl : told = confirmed :=
        given.confirmed told (List.mem_cons_of_mem _ (List.mem_cons_self ..))
      cases told with
      | true =>
          obtain ⟨rfl, time, reply, rfl⟩ := fail_does (does_log.1 checks)
          exact ⟨rfl, time, _, reply, rfl, rfl⟩
      | false =>
          obtain ⟨told, _, rfl, confirms⟩ := checks
          obtain rfl : told = confirming :=
            given.confirming told
              (List.mem_cons_of_mem _ (List.mem_cons_of_mem _ (List.mem_cons_self ..)))
          cases told with
          | error error =>
              obtain ⟨rfl, time, reply, rfl⟩ := fail_does (does_log.1 confirms)
              exact ⟨rfl, time, _, reply, rfl, rfl⟩
          | ok value =>
              obtain ⟨time, reply, _, rfl, rfl, rfl⟩ := does_announced (does_log.1 confirms)
              exact ⟨rfl, time, _, reply, rfl, rfl⟩
    · have fails : (Resolution.fail id .swapFail).Does onward resolution := by
        cases told with
        | none => contradiction
        | _ => exact does_log.1 swaps
      obtain ⟨rfl, time, reply, rfl⟩ := fail_does fails
      refine ⟨?_, time, _, reply, rfl, ?_⟩
      · simp [BootReport.verdict, BootReport.awaits, outstanding]
      · rw [BootReport.asked, if_pos rfl, if_neg outstanding]
        rfl
  · rw [if_neg due] at settles
    obtain ⟨rfl, time, reply, rfl⟩ := fail_does (does_log.1 settles)
    exact ⟨by simp [BootReport.verdict, due], time, _, reply, rfl, by simp [BootReport.asked, due]⟩

end Settling

def Record.WasRead (history : List Happening) : Prop :=
  (∃ stage, .exchange (.device (.load Record.space Record.stageKey)) (.ok stage) ∈ history) ∧
    ∃ id, .exchange (.device (.load Record.space Record.idKey)) (.ok id) ∈ history

section Reading

theorem deeds_load (space key : String) (reply : Except Failure (Option Bytes)) :
    Agent.Call.deeds (.device (.load space key)) reply =
      [.exchange (.device (.load space key)) reply] := rfl

variable {deeds rest : List Happening} {settings last : SettingsTable}

/-- Loading answers with the record just if both keys were read, and asks for nothing but them. -/
theorem load_does {loaded : Except SettingsError Record} (does : Record.load.Does deeds loaded)
    (serves : settings.Serves (deeds ++ rest) last) :
    settings.Serves rest last ∧
      (∀ happening ∈ deeds, ∃ key reply,
        happening = .exchange (.device (.load Record.space key)) reply) ∧
      (loaded = .ok settings.record ∧ Record.WasRead deeds ∨
        loaded = .error .load ∧ ¬ Record.WasRead deeds) := by
  simp only [Record.load, Agent.log, Agent.device, bind_eq, ask_bind, done_bind,
    pure_eq_done] at does
  obtain ⟨stage, _, rfl, reads⟩ := stored_does does
  cases stage with
  | error failure =>
      obtain ⟨rfl, rfl⟩ := reads
      obtain ⟨_, rfl, onward⟩ := serves
      refine ⟨onward, by simp [deeds_load], .inr ⟨rfl, ?_⟩⟩
      simp [Record.WasRead, deeds_load]
  | ok stage =>
      obtain ⟨id, warned, rfl, ends⟩ := stored_does reads
      cases id with
      | error failure =>
          obtain ⟨rfl, rfl⟩ := ends
          obtain ⟨_, ⟨_, rfl⟩, _, rfl, onward⟩ := serves
          refine ⟨onward, by simp [deeds_load], .inr ⟨rfl, ?_⟩⟩
          simp [Record.WasRead, deeds_load, Record.stageKey, Record.idKey]
      | ok id =>
          obtain ⟨rfl, rfl⟩ : warned = [] ∧ loaded = .ok (Record.decode stage id) := by
            dsimp only [Except.mapError] at ends
            split at ends
            · exact does_log.1 ends
            · exact ends
          obtain ⟨_, ⟨rfl, rfl⟩, _, ⟨rfl, rfl⟩, onward⟩ := serves
          refine ⟨onward, by simp [deeds_load], .inl ⟨rfl, ?_⟩⟩
          simp [Record.WasRead, deeds_load]

end Reading

def Record.clearing (deleted saved : Except Failure Unit) : List Happening :=
  [.exchange (.device (.delete Record.space Record.idKey)) deleted,
    .exchange (.device (.save Record.space Record.stageKey [Stage.idle.byte])) saved]

section Clearing

variable {deeds : List Happening} {settings last : SettingsTable}

theorem reset_does {result : Except SettingsError Unit} (does : Record.reset.Does deeds result) :
    ∃ deleted saved, deeds = Record.clearing deleted saved := by
  simp only [Record.reset, Record.deleteId, Record.saveStage, Agent.device, bind_eq, ask_bind,
    done_bind, pure_eq_done] at does
  obtain ⟨deleted, _, rfl, saves⟩ := stored_does does
  obtain ⟨saved, onward, rfl, ends⟩ := stored_does saves
  obtain rfl : onward = [] := by
    cases saved <;> exact ends.1
  exact ⟨deleted, saved, rfl⟩

theorem record_of_clearing {deleted saved : Except Failure Unit}
    (serves : settings.Serves (Record.clearing deleted saved) last)
    (granted : (Record.clearing deleted saved).any Happening.isRefusal = false) :
    last.record = ⟨.idle, none⟩ := by
  cases deleted with
  | error failure => simp [Record.clearing, Happening.isRefusal] at granted
  | ok value =>
      cases saved with
      | error failure => simp [Record.clearing, Happening.isRefusal] at granted
      | ok value =>
          obtain ⟨_, rfl, _, rfl, rfl⟩ := serves
          rw [SettingsTable.record_save_stage, SettingsTable.record_delete_id]

end Clearing

inductive Course (settings : SettingsTable) (report : BootReport) (reads : List Happening) :
    List Happening → Resolution → Prop
  | nothing : ¬ (Record.WasRead reads ∧ ∃ id, settings.record.id = some id) →
      Course settings report reads [] .nothingPending
  | found {id time event reply} : Record.WasRead reads → settings.record.id = some id →
      (report.verdict settings.record.stage id).Announced time event →
      Course settings report reads
        (report.asked settings.record.stage ++ [.exchange (.device (.publish event)) reply])
        (report.verdict settings.record.stage id)

section Running

variable {deeds : List Happening} {settings last : SettingsTable} {report : BootReport}
  {resolution : Resolution}

theorem settles_does {reads settled : List Happening}
    (does : (Resolution.resolve settings.record).Does settled resolution)
    (read : Record.WasRead reads)
    (given : ∀ id, settings.record.id = some id → report.Given settled) :
    Course settings report reads settled resolution := by
  cases known : settings.record.id with
  | none =>
      rw [Resolution.resolve, known] at does
      obtain ⟨rfl, rfl⟩ := does_log.1 does
      exact .nothing (by simp [known])
  | some id =>
      have whole : settings.record = ⟨settings.record.stage, some id⟩ := by rw [← known]
      rw [whole] at does
      obtain ⟨rfl, time, event, reply, announced, rfl⟩ := resolve_does does (given id known)
      exact .found read known announced

theorem concludes_does {outcome : Resolution} {complaint : SettingsError → Log.Record}
    (does : (Record.reset.bind fun result => match result with
      | .ok () => .done outcome
      | .error error => .ask (.device (.log (complaint error))) fun _ => .done outcome :
        Agent Resolution).Does deeds resolution) :
    resolution = outcome ∧ ∃ deleted saved, deeds = Record.clearing deleted saved := by
  obtain ⟨clears, result, rest, rfl, resets, ends⟩ := does_bind.1 does
  obtain ⟨deleted, saved, rfl⟩ := reset_does resets
  obtain ⟨rfl, rfl⟩ : rest = [] ∧ resolution = outcome := by
    cases result with
    | ok value => exact ends
    | error error => exact does_log.1 ends
  exact ⟨rfl, deleted, saved, List.append_nil _⟩

theorem run_does (does : Resolution.run.Does deeds resolution)
    (serves : settings.Serves deeds last)
    (given : ∀ id, settings.record.id = some id → report.Given deeds) :
    ∃ reads settled deleted saved,
      deeds = reads ++ settled ++ Record.clearing deleted saved ∧
      (∀ happening ∈ reads, ∃ key reply,
        happening = .exchange (.device (.load Record.space key)) reply) ∧
      Course settings report reads settled resolution := by
  simp only [Resolution.run, Agent.log, Agent.device, bind_eq, ask_bind, done_bind,
    pure_eq_done] at does
  obtain ⟨reads, loaded, rest, rfl, loads, goes⟩ := does_bind.1 does
  obtain ⟨_, only, ⟨rfl, read⟩ | ⟨rfl, unread⟩⟩ := load_does loads serves
  · obtain ⟨settled, settles, clears, rfl, resolves, concludes⟩ := does_bind.1 goes
    obtain ⟨rfl, deleted, saved, rfl⟩ := concludes_does concludes
    exact ⟨reads, settled, deleted, saved, (List.append_assoc ..).symm, only,
      settles_does resolves read fun id known => (given id known).subset (by simp)⟩
  · obtain ⟨rfl, deleted, saved, rfl⟩ := concludes_does (does_log.1 goes)
    exact ⟨reads, [], deleted, saved, by rw [List.append_nil], only,
      .nothing fun found => unread found.1⟩

end Running

section Recovering

variable {settings : SettingsTable} {report : BootReport} {scene last : Scene}

theorem Agent.Call.unslotted_of_settles {call : Agent.Call} (settles : call.Settles)
    (operation : Slot.Operation) : call ≠ .shared (.slot operation) := by
  rintro rfl
  rcases settles with clears | ⟨_, announces⟩
  · exact clears
  · exact announces

theorem idle_withstands :
    Withstands surroundings (fun _ _ => True) Agent.Call.Settles (·.slot = .idle) where
  stable := by
    rintro before after rfl idle
    rw [Scene.cancel, idle]
    rfl
  kept call settles := by
    intro before reply after answers idle
    rw [slot_of_unslotted answers (Agent.Call.unslotted_of_settles settles), idle]
  guarded _ _ _ _ := trivial

structure Recovered (settings : SettingsTable) (report : BootReport)
    (reads settled : List Happening) (resolution : Resolution) (last : Scene) : Prop where
  idle : last.slot = .idle
  only : ∀ happening ∈ reads, ∃ key reply,
    happening = .exchange (.device (.load Record.space key)) reply
  course : Course settings report reads settled resolution
  clears : ∃ deleted saved,
    last.deeds = .exchange (.shared (.slot .isBusy)) false ::
      (reads ++ settled ++ Record.clearing deleted saved) ∧
    ∃ between : SettingsTable, between.Serves (Record.clearing deleted saved) last.settings

theorem recovered_of_leads {answer : Except UpdateError Resolution}
    (leads : surroundings.Leads (Admission.recover, ⟨settings, .idle, []⟩) (.done answer, last))
    (given : ∀ id, settings.record.id = some id → report.Given last.history) :
    ∃ reads settled resolution, answer = .ok resolution ∧
      Recovered settings report reads settled resolution last := by
  obtain ⟨later, busy, after, passes, answers, onward⟩ := answers_of_leads leads
  have idle : later.slot = .idle := idle_withstands.stable.passes passes rfl
  obtain ⟨before, same⟩ := deeds_passes passes
  obtain ⟨rfl, rfl⟩ := answers
  rw [idle] at onward
  change surroundings.Leads
    (Resolution.run.bind fun resolution => .done (Except.ok resolution), _) _ at onward
  have stays (resolution : Resolution) (scene : Scene) (ended : True ∧ scene.slot = .idle) :
      scene.Ends (fun _ later => later.slot = .idle)
        (.done (.ok resolution) : Agent (Except UpdateError Resolution)) :=
    ensures_done idle_withstands.stable ended.2 fun _ idle => idle
  have kept := ensures_leads onward (ensures_bind
    (idle_withstands.ensures resolution_always (fun _ settles => settles) rfl) stays)
  obtain ⟨whole, longer, does, serves⟩ := does_of_leads onward
  obtain ⟨deeds, resolution, rest, rfl, runs, ends⟩ := does_bind.1 does
  obtain ⟨rfl, rfl⟩ := ends
  rw [List.append_nil] at longer serves
  rw [same] at serves
  have begun : last.deeds = .exchange (.shared (.slot .isBusy)) false :: deeds := by
    rw [longer, Scene.deeds, List.filter_append]
    change later.deeds ++ _ ++ _ = _
    rw [before]
    rfl
  -- What was done is part of what happened, so the report is true of it as well.
  have within : deeds ⊆ last.history := fun happening inside =>
    (List.mem_filter.1 (begun ▸ List.mem_cons_of_mem _ inside : happening ∈ last.deeds)).1
  obtain ⟨reads, settled, deleted, saved, rfl, only, course⟩ :=
    run_does runs serves fun id known => (given id known).subset within
  exact ⟨reads, settled, resolution, rfl, kept.ended, only, course, deleted, saved, begun,
    SettingsTable.serves_append serves |>.imp fun _ serves => serves.2⟩

end Recovering

namespace BootReport

variable {report : BootReport} {stage : Stage}

theorem mem_asked_confirm {reply : Except FlashError Unit} :
    .exchange (.device .confirm) reply ∈ report.asked stage ↔
      stage = .pendingReboot ∧ report.awaits = true ∧ reply = report.confirming := by
  by_cases due : stage = .pendingReboot
  · by_cases outstanding : report.swap = .none
    · cases confirmed : report.confirmed <;> simp [asked, awaits, due, outstanding, confirmed]
    · simp [asked, awaits, outstanding]
  · simp [asked, due]

theorem asked_flash : ∀ happening ∈ report.asked stage, ∃ call reply,
    happening = .exchange (.device call) reply ∧ call.isFlash = true := by
  by_cases due : stage = .pendingReboot
  · by_cases outstanding : report.swap = .none
    · cases confirmed : report.confirmed <;>
        simp [asked, due, outstanding, confirmed, Device.Call.isFlash]
    · simp [asked, outstanding, Device.Call.isFlash]
  · simp [asked, due]

/-- The update is confirmed just if the bootloader was asked to confirm it and did. -/
theorem verdict_cases (report : BootReport) (stage : Stage) (id : RequestId) :
    (stage = .pendingReboot ∧ report.awaits = true ∧ report.confirming = .ok ()) ∧
        report.verdict stage id = .confirmed id ∨
      ¬ (stage = .pendingReboot ∧ report.awaits = true ∧ report.confirming = .ok ()) ∧
        ∃ error : UpdateError, error.statusCode = .internalError ∧
          report.verdict stage id = .failed id error := by
  by_cases due : stage = .pendingReboot
  · by_cases awaits : report.awaits = true
    · cases confirming : report.confirming with
      | ok value => exact .inl ⟨⟨due, awaits, rfl⟩, by simp [verdict, due, awaits, confirming]⟩
      | error error =>
          exact .inr ⟨by simp, .internal, rfl, by simp [verdict, due, awaits, confirming]⟩
    · exact .inr ⟨by simp [awaits], .swapFail, rfl, by simp [verdict, due, awaits]⟩
  · exact .inr ⟨by simp [due], .internal, rfl, by simp [verdict, due]⟩

end BootReport

theorem Record.due_iff (settings : SettingsTable) :
    settings.record.stage = .pendingReboot ↔
      (settings.load Record.space Record.stageKey).bind List.head? = some 3 := by
  change Record.decodeStage (settings.load _ _) = _ ↔ _
  cases settings.load Record.space Record.stageKey with
  | none => simp [decodeStage]
  | some bytes =>
      cases bytes with
      | nil => simp [decodeStage]
      | cons byte rest =>
          have named := Stage.ofByte?_eq_some_iff byte .pendingReboot
          have decoded : decodeStage (some (byte :: rest)) = (Stage.ofByte? byte).getD .idle := rfl
          rw [decoded, Option.bind_some, List.head?_cons, Option.some_inj]
          cases found : Stage.ofByte? byte <;> simp_all [Stage.byte]

def Record.Found (settings : SettingsTable) (history : List Happening) (id : RequestId) : Prop :=
  Record.WasRead history ∧
    (settings.load Record.space Record.idKey).bind RequestId.decode? = some id

/-- What a recovery decides from what is stored and from what the bootloader says, whatever else
fails on the way. -/
structure Decided (settings : SettingsTable) (report : BootReport)
    (answer : Except UpdateError Resolution) (last : Scene) : Prop where
  confirms : (∃ reply, .exchange (.device .confirm) reply ∈ last.history) ↔
    (∃ id, Record.Found settings last.history id) ∧
      (settings.load Record.space Record.stageKey).bind List.head? = some 3 ∧
      report.swap = .none ∧ report.confirmed = false
  announces : (∃ event, last.events = [event]) ↔ ∃ id, Record.Found settings last.history id
  tells : ∀ id, Record.Found settings last.history id →
    answer = .ok (report.verdict settings.record.stage id) ∧
    ∃ time event, (report.verdict settings.record.stage id).Announced time event ∧
      last.events = [event] ∧ event.requestUuid = id.text ∧
      (event.status = Phase.success.status ↔
        .exchange (.device .confirm) (.ok ()) ∈ last.history) ∧
      (event.status ≠ Phase.success.status → event.status = Phase.failure.status ∧
        event.code = StatusCode.internalError.text)
  quiet : (¬ ∃ id, Record.Found settings last.history id) →
    answer = .ok .nothingPending ∧ last.events = [] ∧
      ∀ call reply, .exchange (.device call) reply ∈ last.history → call.isFlash = false
  clears : ∃ earlier deleted saved, last.deeds = earlier ++ Record.clearing deleted saved
  idle : last.slot = .idle
  forgets : last.history.any Happening.isRefusal = false → last.settings.record = ⟨.idle, none⟩

section Deciding

variable {settings : SettingsTable} {report : BootReport} {reads settled : List Happening}
  {resolution : Resolution} {last : Scene}

theorem Device.Call.isDeed_of_flash {call : Device.Call} (flash : call.isFlash = true)
    (reply : Device.Reply call) : (Happening.exchange (.device call) reply).isDeed = true := by
  cases call <;> first | rfl | contradiction

namespace Recovered

theorem mem_flash (recovered : Recovered settings report reads settled resolution last)
    {call : Device.Call} (flash : call.isFlash = true) {reply : Device.Reply call} :
    .exchange (.device call) reply ∈ last.history ↔ .exchange (.device call) reply ∈ settled := by
  obtain ⟨deleted, saved, deeds, _⟩ := recovered.clears
  rw [← mem_deeds (Device.Call.isDeed_of_flash flash reply), deeds]
  constructor
  · intro inside
    simp only [List.mem_cons, List.mem_append, Record.clearing, List.not_mem_nil,
      or_false] at inside
    obtain same | (inside | inside) | same | same := inside
    · cases same
    · obtain ⟨key, answer, same⟩ := recovered.only _ inside
      cases same
      contradiction
    · exact inside
    · cases same
      contradiction
    · cases same
      contradiction
  · intro inside
    simp [inside]

theorem mem_load (recovered : Recovered settings report reads settled resolution last)
    {key : String} {reply : Except Failure (Option Bytes)} :
    .exchange (.device (.load Record.space key)) reply ∈ last.history ↔
      .exchange (.device (.load Record.space key)) reply ∈ reads := by
  obtain ⟨deleted, saved, deeds, _⟩ := recovered.clears
  rw [← mem_deeds rfl, deeds]
  constructor
  · intro inside
    simp only [List.mem_cons, List.mem_append, Record.clearing, List.not_mem_nil,
      or_false] at inside
    obtain same | (inside | inside) | same | same := inside
    · cases same
    · exact inside
    · cases recovered.course with
      | nothing _ => cases inside
      | found _ _ _ =>
          obtain inside | same := List.mem_append.1 inside
          · obtain ⟨call, answer, same, flash⟩ := BootReport.asked_flash _ inside
            cases same
            contradiction
          · cases List.mem_singleton.1 same
    · cases same
    · cases same
  · intro inside
    simp [inside]

theorem wasRead_iff (recovered : Recovered settings report reads settled resolution last) :
    Record.WasRead last.history ↔ Record.WasRead reads := by
  simp only [Record.WasRead, recovered.mem_load]

theorem events_eq (recovered : Recovered settings report reads settled resolution last) :
    last.events = settled.filterMap Happening.event? := by
  obtain ⟨deleted, saved, deeds, _⟩ := recovered.clears
  have unheard : reads.filterMap Happening.event? = [] := by
    rw [List.filterMap_eq_nil_iff]
    intro happening inside
    obtain ⟨key, reply, rfl⟩ := recovered.only happening inside
    rfl
  rw [events_deeds, deeds, List.filterMap_cons_none rfl, List.filterMap_append,
    List.filterMap_append, unheard]
  exact List.append_nil _

theorem found_iff (recovered : Recovered settings report reads settled resolution last) :
    (∃ id, Record.Found settings last.history id) ↔
      Record.WasRead reads ∧ ∃ id, settings.record.id = some id := by
  simp only [Record.Found, recovered.wasRead_iff, exists_and_left]
  rfl

theorem record_idle (recovered : Recovered settings report reads settled resolution last)
    (granted : last.history.any Happening.isRefusal = false) :
    last.settings.record = ⟨.idle, none⟩ := by
  obtain ⟨deleted, saved, deeds, between, serves⟩ := recovered.clears
  refine record_of_clearing serves (List.any_eq_false.2 fun happening inside => ?_)
  have within : happening ∈ last.deeds := by simp [deeds, inside]
  exact List.any_eq_false.1 granted happening (List.mem_filter.1 within).1

end Recovered

theorem BootReport.asked_silent (stage : Stage) :
    (report.asked stage).filterMap Happening.event? = [] := by
  rw [List.filterMap_eq_nil_iff]
  intro happening inside
  obtain ⟨call, reply, rfl, flash⟩ := asked_flash happening inside
  cases call <;> first | rfl | contradiction

theorem BootReport.awaits_iff :
    report.awaits = true ↔ report.swap = .none ∧ report.confirmed = false := by
  simp [awaits]

theorem decided_of_nothing
    (recovered : Recovered settings report reads [] .nothingPending last)
    (nothing : ¬ (Record.WasRead reads ∧ ∃ id, settings.record.id = some id)) :
    Decided settings report (.ok .nothingPending) last where
  confirms := by
    rw [recovered.found_iff]
    constructor
    · rintro ⟨reply, inside⟩
      cases (recovered.mem_flash rfl).1 inside
    · exact fun holds => absurd holds.1 nothing
  announces := by
    rw [recovered.found_iff, recovered.events_eq]
    simp [nothing]
  tells id found := absurd (recovered.found_iff.1 ⟨id, found⟩) nothing
  quiet _ := by
    refine ⟨rfl, recovered.events_eq, fun call reply inside => ?_⟩
    cases flash : call.isFlash with
    | false => rfl
    | true => cases (recovered.mem_flash flash).1 inside
  clears := by
    obtain ⟨deleted, saved, deeds, _⟩ := recovered.clears
    exact ⟨_, deleted, saved, by rw [deeds, List.cons_append]⟩
  idle := recovered.idle
  forgets := recovered.record_idle

theorem decided_of_found {id : RequestId} {time : Int64} {event : Event}
    {reply : Except Failure Unit} (recovered : Recovered settings report reads
      (report.asked settings.record.stage ++ [.exchange (.device (.publish event)) reply])
      (report.verdict settings.record.stage id) last)
    (read : Record.WasRead reads) (known : settings.record.id = some id)
    (announced : (report.verdict settings.record.stage id).Announced time event) :
    Decided settings report (.ok (report.verdict settings.record.stage id)) last := by
  have found : ∃ id, Record.Found settings last.history id :=
    recovered.found_iff.2 ⟨read, id, known⟩
  have events : last.events = [event] := by
    rw [recovered.events_eq, List.filterMap_append, BootReport.asked_silent]
    rfl
  have confirmed (told : Except FlashError Unit) :
      .exchange (.device .confirm) told ∈ last.history ↔
        settings.record.stage = .pendingReboot ∧ report.awaits = true ∧
          told = report.confirming := by
    rw [recovered.mem_flash rfl, List.mem_append, BootReport.mem_asked_confirm]
    simp
  refine ⟨?_, ⟨fun _ => found, fun _ => ⟨event, events⟩⟩, ?_, fun quiet => absurd found quiet, ?_,
    recovered.idle, recovered.record_idle⟩
  · simp only [confirmed, ← Record.due_iff, ← BootReport.awaits_iff, found, true_and,
      exists_and_left, exists_eq, and_true]
  · rintro other ⟨_, decoded⟩
    obtain rfl : other = id := Option.some_inj.1 (decoded.symm.trans known)
    refine ⟨rfl, time, event, announced, events, ?_⟩
    rw [confirmed, eq_comm (a := Except.ok ())]
    rcases report.verdict_cases settings.record.stage other with
      ⟨succeeds, verdict⟩ | ⟨fails, error, code, verdict⟩
    · rw [verdict] at announced
      obtain rfl : event = _ := announced
      exact ⟨rfl, by simp [succeeds, Event.compose], fun other => absurd rfl other⟩
    · rw [verdict] at announced
      obtain rfl : event = _ := announced
      refine ⟨rfl, ⟨fun same => ?_, fun succeeds => absurd succeeds fails⟩,
        fun _ => ⟨rfl, by simp [Event.compose, code]⟩⟩
      have same : Phase.failure.status = Phase.success.status := same
      cases Phase.status_injective same
  · obtain ⟨deleted, saved, deeds, _⟩ := recovered.clears
    exact ⟨_, deleted, saved, by rw [deeds, List.cons_append]⟩

end Deciding

theorem decided_of_leads {settings : SettingsTable} {report : BootReport}
    {answer : Except UpdateError Resolution} {last : Scene}
    (leads : surroundings.Leads (Admission.recover, ⟨settings, .idle, []⟩) (.done answer, last))
    (given : ∀ id, settings.record.id = some id → report.Given last.history) :
    Decided settings report answer last := by
  obtain ⟨reads, settled, resolution, rfl, recovered⟩ := recovered_of_leads leads given
  cases recovered.course with
  | nothing nothing => exact decided_of_nothing recovered nothing
  | found read known announced => exact decided_of_found recovered read known announced

/-- The decision of a recovery on a free slot. Wherever it may have come to, it can come to its end,
and this is how it ends. It clears the record whatever it decided; so if the settings did not refuse
that, another recovery finds nothing. -/
theorem recovery_decides (settings : SettingsTable) (report : BootReport)
    {rest : Agent (Except UpdateError Resolution)} {scene : Scene}
    (leads : surroundings.Leads (Admission.recover, ⟨settings, .idle, []⟩) (rest, scene))
    (given : report.Given scene.history) :
    (∃ answer last, surroundings.Leads (rest, scene) (.done answer, last) ∧
      report.Given last.history) ∧
    ∀ answer last, surroundings.Leads (rest, scene) (.done answer, last) →
      report.Given last.history → Decided settings report answer last ∧
      (last.history.any Happening.isRefusal = false → ∀ second final,
        surroundings.Leads (Admission.recover, { last with history := [] }) (.done second, final) →
        second = .ok .nothingPending ∧ final.events = [] ∧
          ∀ call reply, .exchange (.device call) reply ∈ final.history →
            call.isFlash = false) := by
  refine ⟨report.exists_end rest given, fun answer last onward given => ?_⟩
  have decided := decided_of_leads (leads.trans onward) fun _ _ => given
  refine ⟨decided, fun granted second final again => ?_⟩
  rw [decided.idle] at again
  have forgotten : last.settings.record.id = none := by rw [decided.forgets granted]
  have unknown (id : RequestId) : last.settings.record.id ≠ some id := by simp [forgotten]
  have settled : Decided last.settings report second final :=
    decided_of_leads again fun id known => absurd known (unknown id)
  exact settled.quiet fun ⟨id, found⟩ => unknown id found.2

/-- A trial was booted, and waits for its confirmation. -/
theorem recovery_decides_due :
    ∃ answer last, surroundings.Leads (Admission.recover, ⟨Setup.sampleDue, .idle, []⟩)
        (.done answer, last) ∧
      BootReport.Given ⟨.none, false, .ok ()⟩ last.history ∧
      Decided Setup.sampleDue ⟨.none, false, .ok ()⟩ answer last ∧
      (last.history.any Happening.isRefusal = false → ∀ second final,
        surroundings.Leads (Admission.recover, { last with history := [] }) (.done second, final) →
        second = .ok .nothingPending ∧ final.events = [] ∧
          ∀ call reply, .exchange (.device call) reply ∈ final.history → call.isFlash = false) := by
  let trial : Trial := ⟨{ Bench.fresh with settings := Setup.sampleDue }, .idle, []⟩
  have leads := Trial.leads_answered (fun _ => false) Admission.recover trial
  let report : BootReport := ⟨.none, false, .ok ()⟩
  have agrees : (Admission.recover.run (Trial.answerUntil fun _ => false) trial).2.history.all
      report.agrees = true := by
    decide +kernel
  have given := BootReport.given_iff.2 (List.all_eq_true.1 agrees)
  obtain ⟨_, decides⟩ := recovery_decides Setup.sampleDue report leads given
  exact ⟨_, _, leads, given, decides _ _ .refl given⟩

end DualBank
