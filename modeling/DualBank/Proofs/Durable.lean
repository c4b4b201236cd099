import DualBank.Proofs.Delivery
import DualBank.Proofs.Recording
import DualBank.Proofs.Site

/-! What an update can leave behind: the record, the banks and the trailer of the bootloader tell
together how far it had come, and each call to the settings or the banks keeps them in step. -/

namespace DualBank

open Program Surroundings Site

namespace Happening

def isTest : Happening → Bool
  | .exchange (.device .requestTest) (.ok ()) => true
  | _ => false

end Happening

structure Trace where
  transfer : Option Transfer
  tested : Bool

namespace Trace

def notes : Notes Trace where
  of history := ⟨Transfer.latest history, history.any Happening.isTest⟩
  cancel history accepted := by
    simp [Transfer.latest_append, Transfer.step, Happening.isTest]

theorem tested_append (history : List Happening) (happening : Happening) :
    (notes.of (history ++ [happening])).tested =
      ((notes.of history).tested || happening.isTest) := by
  simp [notes]

def request (reply : Except FlashError Unit) (trace : Trace) : Trace :=
  match reply with
  | .ok () => ⟨trace.transfer, true⟩
  | .error _ => trace

theorem notes_request (history : List Happening) (reply : Except FlashError Unit) :
    notes.of (history ++ [.exchange (.device .requestTest) reply]) =
      request reply (notes.of history) := by
  cases reply <;> simp [notes, request, Transfer.latest_append, Transfer.step, Happening.isTest]

def Ignored : Agent.Call → Prop
  | .device (.download ..) | .device (.source _) | .device .requestTest => False
  | _ => True

theorem ignores_of_ignored {call : Agent.Call} (ignored : Ignored call) : notes.Ignores call := by
  intro history reply
  cases call with
  | device call =>
      cases call <;>
        first
          | exact ignored.elim
          | simp [notes, Transfer.latest_append, Transfer.step, Happening.isTest]
  | shared call => simp [notes, Transfer.latest_append, Transfer.step, Happening.isTest]
  | join => simp [notes, Transfer.latest_append, Transfer.step, Happening.isTest]

end Trace

structure Setup where
  banks : BankDirectory
  home : Location
  primary : Option Bytes
  id : RequestId

namespace Setup

variable (setup : Setup)

def holdings (secondary scratch : Option Bytes) : Holdings :=
  ⟨setup.primary, secondary, scratch, .settled⟩

def Recordable (record : Record) : Prop :=
  record.id = none ∨
    record.id = some setup.id ∧ (record.stage = .inProgress ∨ record.stage = .pendingReboot)

structure Calm (held : Record → Prop) (staged : Option Bytes → Option Transfer → Prop)
    (settings : SettingsTable) (device : FileDevice) (files : FileTree) (trace : Trace) : Prop where
  banks : device.banks = setup.banks
  closed : device.writer = none
  record : held settings.record
  untested : trace.tested = false
  files : ∃ secondary scratch, staged secondary trace.transfer ∧
    setup.banks.Stands setup.home (setup.holdings secondary scratch) files

structure Writing (image : Bytes) (settings : SettingsTable) (device : FileDevice)
    (files : FileTree) (trace : Trace) : Prop where
  banks : device.banks = setup.banks
  record : settings.record = ⟨.inProgress, some setup.id⟩
  untested : trace.tested = false
  files : ∃ writer secondary scratch file, device.writer = some writer ∧
    setup.banks.Carries setup.home (setup.holdings secondary scratch) writer image file files

structure Pending (settings : SettingsTable) (device : FileDevice) (files : FileTree)
    (trace : Trace) : Prop where
  banks : device.banks = setup.banks
  record : settings.record = ⟨.pendingReboot, some setup.id⟩
  tested : trace.tested = true
  files : ∃ image header scratch, Transfer.Delivered trace.transfer image ∧
    headerOf (some image) = .ok header ∧
    setup.banks.Stands setup.home ⟨setup.primary, some image, scratch, ⟨true, true⟩⟩ files

def Durable (settings : SettingsTable) (device : FileDevice) (files : FileTree) (trace : Trace) :
    Prop :=
  setup.Calm setup.Recordable (fun _ _ => True) settings device files trace ∨
    (∃ image, setup.Writing image settings device files trace) ∨
    setup.Pending settings device files trace

abbrev guard (_ : Agent.Call) (site : Site) : Prop :=
  site.Holds Trace.notes setup.Durable

def Following (rest : Download) (site : Site) : Prop :=
  ∃ image, site.Holds Trace.notes (setup.Writing image) ∧
    (site.slot = .running → Transfer.Reached (Transfer.latest site.history) rest image)

variable {setup} {held : Record → Prop} {staged : Option Bytes → Option Transfer → Prop}
  {settings : SettingsTable} {device : FileDevice} {files : FileTree} {trace : Trace}

theorem durable_of_calm (calm : setup.Calm held staged settings device files trace)
    (recordable : ∀ record, held record → setup.Recordable record) :
    setup.Durable settings device files trace := by
  obtain ⟨secondary, scratch, _, stands⟩ := calm.files
  exact .inl ⟨calm.banks, calm.closed, recordable _ calm.record, calm.untested, secondary, scratch,
    trivial, stands⟩

end Setup

structure Quiet (call : Agent.Call) : Prop where
  spares : Spares call
  ignored : Trace.Ignored call

theorem quiet_of_announces {call : Agent.Call} {uuid : String} {phases : List Phase}
    (announces : call.Announces uuid phases) : Quiet call := by
  refine ⟨⟨Agent.Call.not_stores_of_announces announces, ?_⟩, ?_⟩
  · rintro flash rfl
    cases flash <;> first | rfl | exact announces.elim
  · cases call with
    | device call => cases call <;> trivial
    | shared call => trivial
    | join => trivial

theorem quiet_log {record : Log.Record} : Quiet (.device (.log record)) :=
  @quiet_of_announces (.device (.log record)) "" [] trivial

theorem quiet_now : Quiet (.device .now) :=
  @quiet_of_announces (.device .now) "" [] trivial

theorem quiet_notify (notification : Notification) : Quiet (.shared (.notify notification)) :=
  @quiet_of_announces (.shared (.notify notification)) "" [] trivial

theorem quiet_slot (operation : Slot.Operation) : Quiet (.shared (.slot operation)) :=
  ⟨⟨fun impossible => impossible, by simp⟩, trivial⟩

theorem quiet_sleep (milliseconds : Nat) : Quiet (.device (.sleep milliseconds)) := by
  refine ⟨⟨fun impossible => impossible, ?_⟩, trivial⟩
  rintro flash ⟨⟩
  rfl

theorem quiet_restart : Quiet (.device .restart) := by
  refine ⟨⟨fun impossible => impossible, ?_⟩, trivial⟩
  rintro flash ⟨⟩
  rfl

section Steps

variable {setup : Setup} {α : Type} {site : Site} {post : α → Site → Prop}
  {assertion : SettingsTable → FileDevice → FileTree → Trace → Prop}
  (durable : ∀ settings device files trace, assertion settings device files trace →
    setup.Durable settings device files trace)

include durable

variable (holds : site.Holds Trace.notes assertion)
include holds

theorem ensures_quiet {allowed : Agent.Call → Prop} {condition : α → Prop} {program : Agent α}
    (always : program.Always allowed condition) (quiet : ∀ call, allowed call → Quiet call) :
    surroundings.Ensures setup.guard
      (fun value later => condition value ∧ later.Holds Trace.notes assertion) program site := by
  refine ensures_always always stable_holds (fun call allows => ?_) (fun _ _ _ => durable _ _ _ _)
    holds
  exact keeps_holds (quiet call allows).spares
    (Trace.ignores_of_ignored (quiet call allows).ignored)

theorem ensures_told {uuid : String} {phases : List Phase} {program : Agent Unit}
    {continuation : Unit → Agent α}
    (always : program.Always (Agent.Call.Announces uuid phases) fun _ => True)
    (onward : ∀ later : Site, later.Holds Trace.notes assertion →
      surroundings.Ensures setup.guard post (continuation ()) later) :
    surroundings.Ensures setup.guard post (program.bind continuation) site := by
  refine ensures_bind (ensures_quiet durable holds always fun _ => quiet_of_announces) ?_
  exact fun _ later still => onward later still.2

theorem ensures_calm {call : Agent.Call} (quiet : Quiet call)
    {next : Agent.interface.Reply call → Agent α}
    (onward : ∀ reply later, Site.Holds Trace.notes assertion later →
      surroundings.Ensures setup.guard post (next reply) later) :
    surroundings.Ensures setup.guard post (.ask call next) site := by
  refine ensures_spared holds quiet.spares (Trace.ignores_of_ignored quiet.ignored) ?_ onward
  exact fun _ => durable _ _ _ _

theorem ensures_unnoted (call : Device.Call) (flash : call.isFlash = true)
    (ignored : Trace.Ignored (.device call)) {next : Device.Reply call → Agent α}
    (reached : Device.Reply call → SettingsTable → FileDevice → FileTree → Trace → Prop)
    (yields : ∀ settings device files trace, assertion settings device files trace →
      files.Yields (FileDevice.answer call device) fun reply changed =>
        reached reply.1 settings reply.2 changed trace)
    (onward : ∀ (reply : Device.Reply call) later, Site.Holds Trace.notes (reached reply) later →
      surroundings.Ensures setup.guard post (next reply) later) :
    surroundings.Ensures setup.guard post (.ask (.device call) next) site := by
  refine ensures_flash holds call flash ?_ reached (fun _ trace => trace)
    (Trace.ignores_of_ignored ignored) yields onward
  exact fun _ => durable _ _ _ _

end Steps

namespace Setup

variable {setup : Setup} {held reached : Record → Prop}
  {staged : Option Bytes → Option Transfer → Prop} {site : Site}

section Storing

variable (recordable : ∀ record, held record → setup.Recordable record)
  (holds : site.Holds Trace.notes (setup.Calm held staged))
include recordable holds

theorem stored_ensures {cause : SettingsError} {complaint : String} (call : Device.Call)
    (read : Device.Reply call → Except Failure Unit) (answer : Device.Reply call)
    (change : SettingsTable → SettingsTable)
    (serves : ∀ before reply after, Serves call before reply after →
      reply = answer ∧ after = { before with settings := change before.settings })
    (good : read answer = .ok ()) (ignored : Trace.Ignored (.device call))
    (leads : ∀ settings : SettingsTable, held settings.record →
      reached (change settings).record) :
    surroundings.Ensures setup.guard
      (fun result later => result = .ok () ∧
        later.Holds Trace.notes (setup.Calm reached staged))
      (.ask (.device call) fun reply => Record.orFail cause complaint (read reply)) site := by
  refine ensures_settings holds call (Trace.ignores_of_ignored ignored)
    (fun _ calm => durable_of_calm calm recordable) (fun _ => answer) change serves ?_
  rintro settings later ⟨changed, calm⟩
  have stored : later.Holds Trace.notes (setup.Calm reached staged) := by
    refine ⟨calm.banks, calm.closed, ?_, calm.untested, calm.files⟩
    rw [changed]
    exact leads settings calm.record
  rw [good]
  exact ensures_done stable_holds stored fun _ holds => ⟨rfl, holds⟩

theorem prepare_ensures :
    surroundings.Ensures setup.guard
      (fun result later => result = .ok () ∧ later.Holds Trace.notes (setup.Calm held staged))
      Record.prepare site :=
  stored_ensures recordable holds .initSettings (fun reply => reply) (.ok ())
    (fun settings => settings) (fun _ _ _ serves => serves) rfl trivial fun _ record => record

theorem saveStage_ensures (stage : Stage) (reached : Record → Prop)
    (leads : ∀ record, held record → reached ⟨stage, record.id⟩) :
    surroundings.Ensures setup.guard
      (fun result later => result = .ok () ∧
        later.Holds Trace.notes (setup.Calm reached staged))
      (Record.saveStage stage) site := by
  refine stored_ensures recordable holds (.save Record.space Record.stageKey [stage.byte])
    (fun reply => reply) (.ok ()) (·.save Record.space Record.stageKey [stage.byte])
    (fun _ _ _ serves => serves) rfl trivial ?_
  intro settings record
  rw [SettingsTable.record_save_stage]
  exact leads _ record

theorem saveId_ensures (noZero : ∀ byte ∈ Bytes.ofText setup.id.text, byte ≠ 0)
    (reached : Record → Prop)
    (leads : ∀ record, held record → reached ⟨record.stage, some setup.id⟩) :
    surroundings.Ensures setup.guard
      (fun result later => result = .ok () ∧
        later.Holds Trace.notes (setup.Calm reached staged))
      (Record.saveId setup.id) site := by
  refine stored_ensures recordable holds (.save Record.space Record.idKey setup.id.encode)
    (fun reply => reply) (.ok ()) (·.save Record.space Record.idKey setup.id.encode)
    (fun _ _ _ serves => serves) rfl trivial ?_
  intro settings record
  rw [SettingsTable.record_save_id _ _ noZero]
  exact leads _ record

theorem deleteId_ensures (reached : Record → Prop)
    (leads : ∀ record, held record → reached ⟨record.stage, none⟩) :
    surroundings.Ensures setup.guard
      (fun result later => result = .ok () ∧
        later.Holds Trace.notes (setup.Calm reached staged))
      Record.deleteId site := by
  refine stored_ensures recordable holds (.delete Record.space Record.idKey)
    (fun reply => reply) (.ok ()) (·.delete Record.space Record.idKey)
    (fun _ _ _ serves => serves) rfl trivial ?_
  intro settings record
  rw [SettingsTable.record_delete_id]
  exact leads _ record

end Storing

section Flashing

variable {settings : SettingsTable} {device : FileDevice} {files : FileTree} {trace : Trace}
  {image : Bytes}

abbrev Fetching (setup : Setup) (staged : Option Bytes → Option Transfer → Prop) :
    SettingsTable → FileDevice → FileTree → Trace → Prop :=
  setup.Calm (· = ⟨.inProgress, some setup.id⟩) staged

theorem erase_yields (fetching : setup.Fetching staged settings device files trace) :
    files.Yields (FileDevice.answer (.erase .secondary) device) fun reply changed =>
      reply.1 = .ok () ∧ setup.Fetching (fun secondary _ => secondary = some []) settings reply.2
        changed trace := by
  obtain ⟨secondary, scratch, _, stands⟩ := fetching.files
  rw [← fetching.banks] at stands
  refine FileTree.yields_mono (FileDevice.erase_yields stands .secondary) ?_
  rintro _ changed ⟨rfl, stands⟩
  exact ⟨rfl, fetching.banks, fetching.closed, fetching.record, fetching.untested, some [],
    scratch, rfl, fetching.banks ▸ stands⟩

theorem openWriter_yields
    (fetching : setup.Fetching (fun secondary _ => secondary = some []) settings device files
      trace) :
    files.Yields (FileDevice.answer (.openWriter .secondary) device) fun reply changed =>
      reply.1 = .ok () ∧ setup.Writing [] settings reply.2 changed trace := by
  obtain ⟨secondary, scratch, rfl, stands⟩ := fetching.files
  have banks := fetching.banks
  rw [← banks] at stands
  refine FileTree.yields_mono (FileDevice.openWriter_yields stands .secondary rfl) ?_
  rintro _ changed ⟨rfl, rfl⟩
  exact ⟨rfl, fetching.banks, fetching.record, fetching.untested, _, some [], scratch, [], rfl,
    by rw [banks], banks ▸ stands, rfl⟩

theorem write_yields (writing : setup.Writing image settings device files trace) (data : Bytes)
    (last : Bool) :
    files.Yields (FileDevice.answer (.write data last) device) fun reply changed =>
      (∃ written, reply.1 = .ok written) ∧
        setup.Writing (image ++ data) settings reply.2 changed trace := by
  obtain ⟨writer, secondary, scratch, file, opened, carries⟩ := writing.files
  refine (FileDevice.write_performs opened carries data last).yields ?_
  rintro _ changed _ ⟨later, file, rfl, _, carries, _⟩
  exact ⟨⟨_, rfl⟩, writing.banks, writing.record, writing.untested, later, secondary, scratch, file,
    rfl, carries⟩

theorem closeWriter_yields (writing : setup.Writing image settings device files trace) :
    files.Yields (FileDevice.answer .closeWriter device) fun reply changed =>
      setup.Fetching (fun secondary _ => secondary = some image) settings reply.2 changed
        trace := by
  obtain ⟨writer, secondary, scratch, file, opened, carries⟩ := writing.files
  refine FileTree.yields_mono (FileDevice.closeWriter_yields opened carries) ?_
  rintro _ changed ⟨rfl, stands⟩
  exact ⟨writing.banks, rfl, writing.record, writing.untested, some image, scratch, rfl, stands⟩

end Flashing

end Setup

end DualBank
