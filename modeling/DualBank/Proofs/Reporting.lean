import DualBank.Proofs.Relapse
import DualBank.Proofs.Standing
import DualBank.Proofs.WriteAhead

/-! What becomes of an acknowledged update when the power goes, whatever was stored before it and
whatever the banks hold. From the moment its id is stored until the update has concluded, the next
start reports how it ended. Before that nothing of it outlasts the process, although it was
acknowledged. -/

namespace DualBank

open Program Surroundings Site
open Happening (idSaved)

namespace Agent.Call

def Retains (id : RequestId) (call : Agent.Call) : Prop :=
  ¬ call.Stores ∨
    (∃ stage : Stage, call = .device (.save Record.space Record.stageKey [stage.byte])) ∨
    call = .device (.save Record.space Record.idKey id.encode)

end Agent.Call

open Agent.Call (Announces Retains not_stores_of_announces not_stores_of_fetches
  not_stores_of_handsOver)

/-- The run has told of its failure, or can only end as canceled any more. -/
def Concluded (uuid : String) (rest : Agent Outcome) (site : Site) : Prop :=
  site.Announced uuid .failure ∨ rest.Always (fun _ => True) (· = .canceled)

def Program.Lasting (id : RequestId) : Agent Outcome → Prop
  | .done _ => True
  | .ask call next =>
      (ask call next : Agent Outcome).Always (fun _ => True) (· = .canceled) ∨
      (∃ event, call = .device (.publish event) ∧ event.requestUuid = id.text ∧
        event.status = Phase.failure.status) ∨
      call.Retains id ∧ ∀ reply, (next reply).Lasting id

section Installing

variable {id : RequestId} {request : Request}

theorem retains_log (record : Log.Record) : Retains id (.device (.log record)) :=
  .inl not_false

theorem announcing_retains {uuid : String} {phases : List Phase} {program : Agent Unit}
    (always : program.Always (Announces uuid phases) fun _ => True) :
    program.Always (Retains id) fun _ => True :=
  always_mono always (fun _ announces => .inl (not_stores_of_announces announces))
    fun _ _ => trivial

theorem retains_of_executes (known : RequestId.ofText? request.uuid = some id)
    {call : Agent.Call} (executes : call.Executes request) : call.Retains id := by
  cases executes with
  | prepare => exact .inl not_false
  | @stage stage _ => exact .inr (.inl ⟨stage, rfl⟩)
  | id other =>
      cases other.symm.trans known
      exact .inr (.inr rfl)
  | fetch fetches => exact .inl (not_stores_of_fetches fetches)
  | deploy announces => exact .inl (not_stores_of_announces announces)
  | handOver handsOver => exact .inl (not_stores_of_handsOver handsOver)

theorem execute_retains (known : RequestId.ofText? request.uuid = some id) (policy : Policy) :
    (Installation.execute policy request).Always (Retains id) fun _ => True :=
  always_mono (execute_always policy request) (fun _ => retains_of_executes known)
    fun _ _ => trivial

theorem lasting_bind {α : Type} {post : α → Prop} {program : Agent α}
    {continuation : α → Agent Outcome} (first : program.Always (Retains id) post)
    (second : ∀ value, (continuation value).Lasting id) :
    (program.bind continuation).Lasting id := by
  induction program with
  | done value => exact second value
  | ask call next ih => exact .inr (.inr ⟨first.1, fun reply => ih reply (first.2 reply)⟩)

theorem lasting_log {record : Log.Record} {next : Unit → Agent Outcome}
    (onward : (next ()).Lasting id) : Lasting id (.ask (.device (.log record)) next) :=
  .inr (.inr ⟨retains_log record, fun _ => onward⟩)

theorem run_lasting (known : RequestId.ofText? request.uuid = some id)
    (same : id.text = request.uuid) (policy : Policy) :
    (Installation.run policy request).Lasting id := by
  simp only [Installation.run, Agent.log, Agent.device, bind_eq, ask_bind, done_bind, pure_eq_done]
  refine lasting_bind (announcing_retains (phase_always (.head []))) fun _ => lasting_log ?_
  refine lasting_bind (execute_retains known policy) fun result => ?_
  split
  · trivial
  · refine .inl ⟨trivial, fun _ => ?_⟩
    exact always_mono (conclude_always .canceled) (fun _ _ => trivial) fun _ holds => holds
  · refine lasting_log ?_
    simp only [Announcement.error, Announcement.publish, Announcement.send, Agent.device, bind_eq,
      ask_bind, done_bind, Program.bind_assoc]
    refine .inr (.inr ⟨.inl not_false, fun time => ?_⟩)
    have notifies : (Announcement.notify .failure).Always (Announces request.uuid [.failure])
        fun _ => True := notify_always .failure fun _ => trivial
    refine lasting_bind (announcing_retains notifies) fun _ => ?_
    exact .inr (.inl ⟨_, rfl, same.symm, rfl⟩)

end Installing

namespace Site

variable {call : Agent.Call} {before after : Site} {reply : Agent.interface.Reply call}

theorem settings_of_serves {call : Device.Call} {before after : Site} {reply : Device.Reply call}
    (unstored : ¬ (Agent.Call.device call).Stores) (serves : Serves call before reply after) :
    after.settings = before.settings := by
  unfold Serves at serves
  split at serves
  · rw [serves.2]
  · exact absurd trivial unstored
  · rw [serves.2]
  · exact absurd trivial unstored
  · split at serves
    · obtain ⟨_, _, _, _, _, rfl⟩ := serves
      rfl
    · rw [serves]

theorem settings_of_answers (unstored : ¬ call.Stores)
    (answers : surroundings.Answers call before reply after) :
    after.settings = before.settings := by
  change Site.Answers call before reply after at answers
  unfold Site.Answers at answers
  split at answers
  · obtain ⟨served, serves, rfl⟩ := answers
    change served.settings = before.settings
    exact settings_of_serves unstored serves
  · obtain ⟨_, rfl⟩ := answers
    rfl
  · subst answers
    rfl

/-- The id is on record once it was stored, and up to then the one there was before. -/
structure Remembers (earlier : Option RequestId) (id : RequestId) (site : Site) : Prop where
  saved : idSaved id ∈ site.history → site.settings.record.id = some id
  unsaved : idSaved id ∉ site.history → site.settings.record.id = earlier

theorem remembers_of_same {earlier : Option RequestId} {id : RequestId}
    (remembers : before.Remembers earlier id)
    (record : after.settings.record.id = before.settings.record.id)
    (history : idSaved id ∈ after.history ↔ idSaved id ∈ before.history) :
    after.Remembers earlier id where
  saved inside := record.trans (remembers.saved (history.1 inside))
  unsaved outside := record.trans (remembers.unsaved fun inside => outside (history.2 inside))

theorem remembers_cancel {earlier : Option RequestId} {id : RequestId} {site : Site}
    (remembers : site.Remembers earlier id) : site.cancel.Remembers earlier id := by
  refine remembers_of_same remembers rfl ?_
  simp [cancel, note, idSaved]

theorem remembers_of_answers {earlier : Option RequestId} {id : RequestId}
    (noZero : ∀ byte ∈ Bytes.ofText id.text, byte ≠ 0) (retains : call.Retains id)
    (answers : surroundings.Answers call before reply after)
    (remembers : before.Remembers earlier id) : after.Remembers earlier id := by
  have history := history_of_answers answers
  have others (other : Happening.exchange call reply ≠ idSaved id) :
      idSaved id ∈ after.history ↔ idSaved id ∈ before.history := by
    rw [history, List.mem_append, List.mem_singleton]
    exact ⟨fun inside => inside.resolve_right other.symm, .inl⟩
  rcases retains with unstored | ⟨stage, rfl⟩ | rfl
  · refine remembers_of_same remembers (by rw [settings_of_answers unstored answers]) (others ?_)
    intro same
    cases same
    exact unstored trivial
  · refine remembers_of_same remembers ?_ (others ?_)
    · obtain ⟨served, ⟨_, rfl⟩, rfl⟩ := answers
      change (before.settings.save _ _ _).record.id = _
      rw [SettingsTable.record_save_stage]
    · simp [idSaved, Record.stageKey, Record.idKey]
  · obtain ⟨served, ⟨rfl, rfl⟩, rfl⟩ := answers
    have stored : (before.settings.save Record.space Record.idKey id.encode).record.id =
        some id := by
      rw [SettingsTable.record_save_id _ _ noZero]
    have inside : idSaved id ∈ before.history ++ [idSaved id] :=
      List.mem_append_right _ (List.mem_singleton_self _)
    exact ⟨fun _ => stored, fun outside => absurd inside outside⟩

theorem announced_append {uuid : String} {phase : Phase} {happening : Happening}
    (longer : after.history = before.history ++ [happening])
    (announced : before.Announced uuid phase) : after.Announced uuid phase := by
  obtain ⟨event, inside, same⟩ := announced
  refine ⟨event, ?_, same⟩
  change event ∈ after.history.filterMap Happening.event?
  rw [longer, List.filterMap_append]
  exact List.mem_append_left _ inside

def Lasts (earlier : Option RequestId) (id : RequestId) (rest : Agent Outcome) (site : Site) :
    Prop :=
  Concluded id.text rest site ∨ rest.Lasting id ∧ site.Remembers earlier id

theorem lasts_answer {earlier : Option RequestId} {id : RequestId}
    (noZero : ∀ byte ∈ Bytes.ofText id.text, byte ≠ 0)
    {next : Agent.interface.Reply call → Agent Outcome}
    (answers : surroundings.Answers call before reply after)
    (lasts : before.Lasts earlier id (.ask call next)) :
    after.Lasts earlier id (next reply) := by
  have history := history_of_answers answers
  rcases lasts with (announced | canceled) | ⟨lasting, remembers⟩
  · exact .inl (.inl (announced_append history announced))
  · exact .inl (.inr (canceled.2 reply))
  · rcases lasting with canceled | ⟨event, rfl, uuid, status⟩ | ⟨retains, onward⟩
    · exact .inl (.inr (canceled.2 reply))
    · refine .inl (.inl ⟨event, ?_, uuid, status⟩)
      change event ∈ after.history.filterMap Happening.event?
      rw [history, List.filterMap_append]
      exact List.mem_append_right _ (List.mem_singleton_self _)
    · exact .inr ⟨onward reply, remembers_of_answers noZero retains answers remembers⟩

theorem lasts_of_leads {id : RequestId} {request : Request}
    (known : RequestId.ofText? request.uuid = some id) (same : id.text = request.uuid)
    (noZero : ∀ byte ∈ Bytes.ofText id.text, byte ≠ 0) {policy : Policy} {settings : SettingsTable}
    {device : FileDevice} {files : FileTree} {rest : Agent Outcome} {site : Site}
    (leads : surroundings.Leads (Installation.run policy request, opening settings device files)
      (rest, site)) : site.Lasts settings.record.id id rest := by
  have start : (opening settings device files).Lasts settings.record.id id
      (Installation.run policy request) :=
    .inr ⟨run_lasting known same policy, fun inside => absurd inside List.not_mem_nil,
      fun _ => rfl⟩
  refine invariant_leads (fun rest later => Lasts settings.record.id id rest later) ?_ ?_ start
    leads
  · rintro rest before after rfl (concluded | ⟨lasting, remembers⟩)
    · have longer : before.cancel.history =
          before.history ++ [.cancel (before.slot.apply .cancel).1] := rfl
      exact .inl (concluded.imp_left (announced_append longer))
    · exact .inr ⟨lasting, remembers_cancel remembers⟩
  · exact fun call next before reply after answers lasts => lasts_answer noZero answers lasts

end Site

def Site.Reports (site : Site) (banks : BankDirectory) (told : Telling → Prop) : Prop :=
  site.files.Yields banks.boot fun booted files => ∀ action, booted = .ok action →
    (∃ value last, surroundings.Leads (Resolution.run, site.restarted files) (.done value, last)) ∧
    ∀ value last, surroundings.Leads (Resolution.run, site.restarted files) (.done value, last) →
      told (Telling.notes.of last.history)

def Telling.Concludes (uuid : String) (telling : Telling) : Prop :=
  ∃ phase error confirms, (phase = .success ∨ phase = .failure) ∧
    Announced uuid phase error confirms telling

section Recovering

variable {banks : BankDirectory} {home : Location} {found : Prop} {site : Site}

/-- A pass of the bootloader leaves no trial that was asked for, so the record is settled on banks
that are settled or on trial. -/
theorem reports_of_resolves (id : RequestId) {told : Telling → Prop}
    (stays : site.Stays banks home found)
    (resolves : ∀ (setup : Setup) (trailer : SwapTrailer),
      trailer = .settled ∨ trailer = .onTrial →
      ∃ resolution last, ∀ later : Site,
        later.Holds Telling.notes (setup.Back trailer (· = site.settings) (· = ⟨[], false⟩)) →
        surroundings.Ensures Answerable
          (fun found later => found = resolution ∧ later.Holds Telling.notes
            (setup.Back last (· = site.settings) told))
          (Resolution.resolve site.settings.record) later) :
    site.Reports banks told := by
  obtain ⟨holdings, shows, _⟩ := stays
  refine FileTree.yields_mono (BankDirectory.boot_yields_ok shows.stands) ?_
  intro booted files boots action acted
  obtain ⟨rfl, stands⟩ := boots action acted
  have trailer : holdings.action.trailer = .settled ∨ holdings.action.trailer = .onTrial := by
    cases holdings.action <;> first | exact .inl rfl | exact .inr rfl
  obtain ⟨resolution, last, resolves⟩ :=
    resolves ⟨banks, home, holdings.booted.primary, id⟩ _ trailer
  have back : (site.restarted files).Holds Telling.notes
      (Setup.Back ⟨banks, home, holdings.booted.primary, id⟩ holdings.action.trailer
        (· = site.settings) (· = ⟨[], false⟩)) :=
    ⟨shows.same, rfl, rfl, _, _, stands⟩
  have ensured := resolution_ensures watches_answerable watches_answerable watches_answerable
    resolves back
  refine ⟨ends_of_ensures (fun _ _ answerable => answerable) ensured, ?_⟩
  intro value last leads
  exact (ensures_leads leads ensured).ended.2.told

theorem reports_of_known {id : RequestId} (stays : site.Stays banks home found)
    (known : site.settings.record.id = some id) :
    site.Reports banks (Telling.Concludes id.text) := by
  have concludes {setup : Setup} {last : SwapTrailer} {resolution : Resolution} {phase : Phase}
      {error : Option UpdateError} {confirms : Bool} (ended : phase = .success ∨ phase = .failure)
      {later : Site}
      (ensured : surroundings.Ensures Answerable
        (fun found later => found = resolution ∧ later.Holds Telling.notes
          (setup.Back last (· = site.settings) (Announced id.text phase error confirms)))
        (Resolution.resolve site.settings.record) later) :
      surroundings.Ensures Answerable
        (fun found later => found = resolution ∧ later.Holds Telling.notes
          (setup.Back last (· = site.settings) (Telling.Concludes id.text)))
        (Resolution.resolve site.settings.record) later :=
    ensures_mono ensured fun _ _ ⟨same, back⟩ =>
      ⟨same, Setup.back_mono back (fun _ stored => stored) fun _ told => ⟨_, _, _, ended, told⟩⟩
  refine reports_of_resolves id stays fun setup trailer trailing => ?_
  by_cases due : site.settings.record.stage = .pendingReboot
  · rcases trailing with rfl | rfl
    · exact ⟨_, _, fun later back => concludes (.inr rfl)
        (resolve_unswapped known due watches_answerable watches_answerable back)⟩
    · exact ⟨_, _, fun later back => concludes (.inl rfl)
        (resolve_trial known due watches_answerable watches_answerable watches_answerable back)⟩
  · exact ⟨_, _, fun later back => concludes (.inr rfl)
      (resolve_interrupted known due watches_answerable watches_answerable back)⟩

theorem silent_of_unknown (id : RequestId) (stays : site.Stays banks home found)
    (unknown : site.settings.record.id = none) : site.Reports banks (· = ⟨[], false⟩) :=
  reports_of_resolves id stays fun _ _ _ =>
    ⟨_, _, fun _ => resolve_nothing unknown watches_answerable⟩

theorem not_concludes_of_silent {uuid : String} (boots : site.Boots banks)
    (silent : site.Reports banks (· = ⟨[], false⟩)) :
    ¬ site.Reports banks (Telling.Concludes uuid) := by
  intro reported
  obtain ⟨result, later, ran, action, acted⟩ := boots (.holding site.files) rfl
  obtain ⟨⟨value, last, leads⟩, ends⟩ := silent.of_run rfl ran action acted
  obtain ⟨_, endsTold⟩ := reported.of_run rfl ran action acted
  obtain ⟨phase, error, confirms, _, time, told⟩ := endsTold value last leads
  rw [ends value last leads] at told
  cases told

end Recovering

/-- No update is lost whose id was stored: wherever the power goes before it has concluded, the next
start reports how it ended. Up to then the id that is stored is still the one from before, and where
there was none the next start reports nothing. And the banks stay bootable. -/
theorem stored_update_reported (policy : Policy) (request : Request)
    (valid : request.check = .ok ()) (settings : SettingsTable) (device : FileDevice)
    (files : FileTree) (home : Location) (holdings : Holdings)
    (stands : device.banks.Stands home holdings files) :
    ∃ id : RequestId, id.text = request.uuid ∧ ∀ (rest : Agent Outcome) (site : Site),
      surroundings.Leads (Installation.run policy request, opening settings device files)
        (rest, site) →
      ¬ Concluded request.uuid rest site →
      (holdings.Bootable → site.Boots device.banks) ∧
        (idSaved id ∈ site.history →
          site.Reports device.banks (Telling.Concludes request.uuid)) ∧
        (idSaved id ∉ site.history → site.settings.record.id = settings.record.id ∧
          (settings.record.id = none → site.Reports device.banks (· = ⟨[], false⟩))) := by
  obtain ⟨id, known, same, noZero⟩ := Request.exists_id valid
  refine ⟨id, same, fun rest site leads unconcluded => ?_⟩
  have stays := stays_of_leads stands leads
  rcases lasts_of_leads known same noZero leads with concluded | ⟨_, remembers⟩
  · rw [same] at concluded
    exact absurd concluded unconcluded
  · refine ⟨boots_of_stays stays, fun stored => ?_, fun unstored => ?_⟩
    · rw [← same]
      exact reports_of_known stays (remembers.saved stored)
    · have left := remembers.unsaved unstored
      exact ⟨left, fun unknown => silent_of_unknown id stays (left.trans unknown)⟩

section Samples

theorem stored_update_reported_sample :
    ∃ id : RequestId, id.text = Request.sample.uuid ∧ ∀ (rest : Agent Outcome) (site : Site),
      surroundings.Leads (Installation.run .standard .sample,
        opening .empty Setup.sampleDevice Setup.sampleFiles) (rest, site) →
      ¬ Concluded Request.sample.uuid rest site →
      (Holdings.Bootable ⟨some [1, 2, 3], none, none, .settled⟩ →
          site.Boots Setup.sampleDevice.banks) ∧
        (idSaved id ∈ site.history →
          site.Reports Setup.sampleDevice.banks (Telling.Concludes Request.sample.uuid)) ∧
        (idSaved id ∉ site.history →
          site.settings.record.id = SettingsTable.empty.record.id ∧
          (SettingsTable.empty.record.id = none →
            site.Reports Setup.sampleDevice.banks (· = ⟨[], false⟩))) :=
  stored_update_reported .standard .sample Request.check_sample .empty Setup.sampleDevice
    Setup.sampleFiles ["banks"] _ Setup.stands_sample

def Device.Call.prepares : Device.Call → Bool
  | .initSettings => true
  | _ => false

def Setup.sampleAcknowledged : Agent Outcome × Site :=
  (Installation.run .standard .sample).advance (answerUntil Device.Call.prepares)
    (opening .empty sampleDevice sampleFiles)

/-- The power goes right after an update was acknowledged, and nobody hears of it again. -/
theorem acknowledged_update_lost :
    ∃ (rest : Agent Outcome) (site : Site),
      surroundings.Leads (Installation.run .standard .sample,
        opening .empty Setup.sampleDevice Setup.sampleFiles) (rest, site) ∧
      site.Announced Request.sample.uuid .acknowledged ∧
      ¬ Concluded Request.sample.uuid rest site ∧ site.Boots Setup.sampleDevice.banks ∧
      ¬ site.Reports Setup.sampleDevice.banks (Telling.Concludes Request.sample.uuid) := by
  have leads : surroundings.Leads
      (Installation.run .standard .sample, opening .empty Setup.sampleDevice Setup.sampleFiles)
      (Setup.sampleAcknowledged.1, Setup.sampleAcknowledged.2) :=
    leads_advance surroundings id (answerUntil _) (answers_of_answerUntil _) _ _
  have stays := stays_of_leads Setup.stands_sample leads
  have boots := boots_of_stays stays fun reverts => by
    simp [Holdings.action, SwapTrailer.settled] at reverts
  refine ⟨_, _, leads, by decide +kernel, ?_, boots, not_concludes_of_silent boots
    (silent_of_unknown Setup.sampleId stays (by decide +kernel))⟩
  rintro (failed | canceled)
  · exact absurd failed (by decide +kernel)
  · have ends := always_run canceled (Trial.answerUntil fun _ => false) (.opening [])
    exact absurd ends (by decide +kernel)

end Samples

end DualBank
