import DualBank.FileDevice
import DualBank.Proofs.Scene
import DualBank.Proofs.Syncing

/-! The agent at work on banks in files, with settings that have no faults. The bootloader and the
writer of a bank answer from the files, and all else on the device as it likes. -/

namespace DualBank

open Program Surroundings

namespace Device.Call

def isFlash : Device.Call → Bool
  | .erase _ | .openWriter _ | .write .. | .closeWriter | .readHeader _ | .swapType | .isConfirmed
  | .confirm | .requestTest => true
  | _ => false

end Device.Call

/-- Settings and files outlast the power; the device here is what the process has of it, its writer
above all. The history is all that happened since the process began, oldest first. -/
structure Site where
  settings : SettingsTable
  device : FileDevice
  files : FileTree
  slot : Slot
  history : List Happening

namespace Site

def Flashes (call : Device.Call) (before : Site) (reply : Device.Reply call) (after : Site) :
    Prop :=
  ∃ (machine later : Machine) (device : FileDevice), machine.files = before.files ∧
    machine.run (FileDevice.answer call before.device) = (.finished (reply, device), later) ∧
      after = { before with device := device, files := later.files }

def Serves : (call : Device.Call) → Site → Device.Reply call → Site → Prop
  | .initSettings, before, reply, after => reply = .ok () ∧ after = before
  | .save space key value, before, reply, after => reply = .ok () ∧
      after = { before with settings := before.settings.save space key value }
  | .load space key, before, reply, after => reply = .ok (before.settings.load space key) ∧
      after = before
  | .delete space key, before, reply, after => reply = .ok () ∧
      after = { before with settings := before.settings.delete space key }
  | call, before, reply, after =>
      if call.isFlash then before.Flashes call reply after else after = before

def note (site : Site) (happening : Happening) : Site :=
  { site with history := site.history ++ [happening] }

def Answers : (call : Agent.Call) → Site → Agent.Reply call → Site → Prop
  | .device call, before, reply, after => ∃ served, Serves call before reply served ∧
      after = served.note (.exchange (.device call) reply)
  | .shared (.slot operation), before, reply, after => reply = (before.slot.apply operation).1 ∧
      after = { before with slot := (before.slot.apply operation).2 }.note
        (.exchange (.shared (.slot operation)) reply)
  | call, before, reply, after => after = before.note (.exchange call reply)

def cancel (site : Site) : Site :=
  { site with slot := (site.slot.apply .cancel).2 }.note (.cancel (site.slot.apply .cancel).1)

abbrev surroundings : Surroundings Agent.interface where
  State := Site
  Moves before after := after = before.cancel
  Answers := Answers

def opening (settings : SettingsTable) (device : FileDevice) (files : FileTree) : Site :=
  ⟨settings, { device with writer := none }, files, .running, []⟩

def restarted (site : Site) (files : FileTree) : Site :=
  ⟨site.settings, { site.device with writer := none }, files, .idle, []⟩

structure Notes (ν : Type) where
  of : List Happening → ν
  cancel : ∀ history accepted, of (history ++ [.cancel accepted]) = of history

def Notes.Ignores {ν : Type} (notes : Notes ν) (call : Agent.Call) : Prop :=
  ∀ history reply, notes.of (history ++ [.exchange call reply]) = notes.of history

variable {ν : Type} {notes : Notes ν}

def Holds (notes : Notes ν) (assertion : SettingsTable → FileDevice → FileTree → ν → Prop)
    (site : Site) : Prop :=
  assertion site.settings site.device site.files (notes.of site.history)

variable {assertion : SettingsTable → FileDevice → FileTree → ν → Prop}

theorem stable_holds : surroundings.Stable (Holds notes assertion) := by
  rintro before after rfl holds
  change assertion before.settings before.device before.files (notes.of (before.history ++ _))
  rw [notes.cancel]
  exact holds

def Spares (call : Agent.Call) : Prop :=
  ¬ call.Stores ∧ ∀ flash : Device.Call, call = .device flash → flash.isFlash = false

theorem same_of_serves {call : Device.Call} (spares : Spares (.device call)) {before after : Site}
    {reply : Device.Reply call} (serves : Serves call before reply after) : after = before := by
  have calm := spares.2 call rfl
  unfold Serves at serves
  split at serves
  · exact serves.2
  · exact absurd trivial spares.1
  · exact serves.2
  · exact absurd trivial spares.1
  · rw [calm] at serves
    exact serves

theorem history_of_serves {call : Device.Call} {before after : Site} {reply : Device.Reply call}
    (serves : Serves call before reply after) : after.history = before.history := by
  unfold Serves at serves
  split at serves
  · rw [serves.2]
  · rw [serves.2]
  · rw [serves.2]
  · rw [serves.2]
  · split at serves
    · obtain ⟨_, _, _, _, _, rfl⟩ := serves
      rfl
    · rw [serves]

theorem noted_of_answers {call : Agent.Call} (spares : Spares call)
    (unslotted : ∀ operation, call ≠ .shared (.slot operation)) {before after : Site}
    {reply : Agent.interface.Reply call} (answers : surroundings.Answers call before reply after) :
    after = before.note (.exchange call reply) := by
  change Answers call before reply after at answers
  unfold Answers at answers
  split at answers
  · obtain ⟨served, serves, rfl⟩ := answers
    rw [same_of_serves spares serves]
  · exact absurd rfl (unslotted _)
  · exact answers

theorem same_of_answers {call : Agent.Call} (spares : Spares call) {before after : Site}
    {reply : Agent.interface.Reply call} (answers : surroundings.Answers call before reply after) :
    ∃ slot, after = { before with slot := slot }.note (.exchange call reply) := by
  change Answers call before reply after at answers
  unfold Answers at answers
  split at answers
  · obtain ⟨served, serves, rfl⟩ := answers
    rw [same_of_serves spares serves]
    exact ⟨before.slot, rfl⟩
  · obtain ⟨_, rfl⟩ := answers
    exact ⟨_, rfl⟩
  · subst answers
    exact ⟨before.slot, rfl⟩

theorem history_of_answers {call : Agent.Call} {before after : Site}
    {reply : Agent.interface.Reply call} (answers : surroundings.Answers call before reply after) :
    after.history = before.history ++ [.exchange call reply] := by
  change Answers call before reply after at answers
  unfold Answers at answers
  split at answers
  · obtain ⟨served, serves, rfl⟩ := answers
    rw [note, history_of_serves serves]
  · obtain ⟨_, rfl⟩ := answers
    rfl
  · subst answers
    rfl

theorem holds_note {site : Site} {call : Agent.Call} {reply : Agent.Reply call}
    (ignored : notes.Ignores call) (holds : site.Holds notes assertion) :
    (site.note (.exchange call reply)).Holds notes assertion := by
  change assertion site.settings site.device site.files (notes.of (site.history ++ _))
  rw [ignored]
  exact holds

theorem keeps_holds {call : Agent.Call} (spares : Spares call) (ignored : notes.Ignores call) :
    surroundings.Keeps (Holds notes assertion) call := by
  intro before reply after answers holds
  obtain ⟨slot, rfl⟩ := same_of_answers spares answers
  exact holds_note ignored holds

section Flash

variable {call : Device.Call} (flash : call.isFlash = true)
include flash

theorem serves_iff {before after : Site} {reply : Device.Reply call} :
    Serves call before reply after ↔ before.Flashes call reply after := by
  cases call <;> simp [Device.Call.isFlash] at flash <;> exact .rfl

variable {before : Site} {post : Device.Reply call × FileDevice → FileTree → Prop}
  (yields : before.files.Yields (FileDevice.answer call before.device) post)
include yields

theorem flashed {reply : Agent.interface.Reply (.device call)} {after : Site}
    (answers : surroundings.Answers (.device call) before reply after) :
    ∃ device files, post (reply, device) files ∧
      after = { before with device := device, files := files }.note
        (.exchange (.device call) reply) := by
  obtain ⟨served, serves, rfl⟩ := answers
  obtain ⟨machine, later, device, same, ran, rfl⟩ := (serves_iff flash).1 serves
  exact ⟨device, later.files, yields.of_run same ran, rfl⟩

theorem answered_of_yields :
    ∃ reply after, surroundings.Answers (.device call) before reply after := by
  obtain ⟨⟨reply, device⟩, later, ran, _⟩ := yields (.holding before.files) rfl
  refine ⟨reply, _, _, (serves_iff flash).2 ⟨_, later, device, rfl, ran, rfl⟩, rfl⟩

end Flash

section Steps

variable {guard : Agent.Call → Site → Prop} {α : Type} {post : α → Site → Prop} {site : Site}
  (holds : site.Holds notes assertion)
include holds

theorem ensures_spared {call : Agent.Call} (spares : Spares call) (ignored : notes.Ignores call)
    (guarded : ∀ later, Holds notes assertion later → guard call later)
    {next : Agent.interface.Reply call → Agent α}
    (onward : ∀ reply later, Holds notes assertion later →
      surroundings.Ensures guard post (next reply) later) :
    surroundings.Ensures guard post (.ask call next) site := by
  refine ensures_ask stable_holds holds guarded ?_
  intro later reply after still answers
  exact onward reply after (keeps_holds spares ignored later reply after answers still)

theorem ensures_flash (call : Device.Call) (flash : call.isFlash = true)
    (guarded : ∀ later, Holds notes assertion later → guard (.device call) later)
    {next : Device.Reply call → Agent α}
    (reached : Device.Reply call → SettingsTable → FileDevice → FileTree → ν → Prop)
    (noted : Device.Reply call → ν → ν)
    (notes_append : ∀ history (reply : Device.Reply call),
      notes.of (history ++ [.exchange (.device call) reply]) = noted reply (notes.of history))
    (yields : ∀ settings device files note, assertion settings device files note →
      files.Yields (FileDevice.answer call device) fun reply changed =>
        reached reply.1 settings reply.2 changed (noted reply.1 note))
    (onward : ∀ (reply : Device.Reply call) later, Holds notes (reached reply) later →
      surroundings.Ensures guard post (next reply) later) :
    surroundings.Ensures guard post (.ask (.device call) next) site := by
  refine ensures_ask stable_holds holds guarded ?_
  intro later reply after still answers
  obtain ⟨device, files, reaches, rfl⟩ := flashed flash (yields _ _ _ _ still) answers
  refine onward reply _ ?_
  change reached reply later.settings device files (notes.of (later.history ++ _))
  rw [notes_append]
  exact reaches

theorem ensures_settings (call : Device.Call) (ignored : notes.Ignores (.device call))
    (guarded : ∀ later, Holds notes assertion later → guard (.device call) later)
    (answer : SettingsTable → Device.Reply call) (change : SettingsTable → SettingsTable)
    (serves : ∀ before reply after, Serves call before reply after →
      reply = answer before.settings ∧
        after = { before with settings := change before.settings })
    {next : Device.Reply call → Agent α}
    (onward : ∀ (settings : SettingsTable) later,
      Holds notes (fun changed device files note => changed = change settings ∧
        assertion settings device files note) later →
      surroundings.Ensures guard post (next (answer settings)) later) :
    surroundings.Ensures guard post (.ask (.device call) next) site := by
  refine ensures_ask stable_holds holds guarded ?_
  intro later reply after still answers
  obtain ⟨served, serve, rfl⟩ := answers
  obtain ⟨rfl, rfl⟩ := serves _ _ _ serve
  refine onward later.settings _ (holds_note ignored ?_)
  exact ⟨rfl, still⟩

end Steps

end Site

namespace FileDevice

variable {banks : BankDirectory} {home : Location} {holdings : Holdings} {tree : FileTree}
  {device : FileDevice}

theorem unchanged_yields {α : Type} {answer : Host α} {post : α → FileTree → Prop}
    (yields : tree.Yields answer post) :
    tree.Yields (device.unchanged answer) fun reply changed =>
      reply.2 = device ∧ post reply.1 changed :=
  FileTree.yields_bind yields fun _ _ holds => FileTree.yields_done ⟨rfl, holds⟩

theorem erase_yields (stands : device.banks.Stands home holdings tree) (bank : Bank) :
    tree.Yields (answer (.erase bank) device) fun reply changed => reply = (.ok (), device) ∧
      device.banks.Stands home (holdings.set (some []) (.ofBank bank)) changed := by
  refine FileTree.yields_mono (unchanged_yields (BankDirectory.erase_yields stands bank)) ?_
  rintro ⟨reply, other⟩ changed ⟨rfl, rfl, stands⟩
  exact ⟨rfl, stands⟩

theorem openWriter_yields (stands : device.banks.Stands home holdings tree) (bank : Bank)
    {content : Bytes} (there : holdings.content (.ofBank bank) = some content) :
    tree.Yields (answer (.openWriter bank) device) fun reply changed =>
      reply = (.ok (), { device with writer := some ⟨device.banks.bankPath bank, [], 0⟩ }) ∧
        changed = tree := by
  refine FileTree.yields_bind (BankDirectory.openWriter_yields stands bank) ?_
  rintro result changed ⟨rfl, rfl⟩
  rw [there]
  exact FileTree.yields_done ⟨rfl, rfl⟩

section Writing

variable {writer : BankWriter} {image file : Bytes} (opened : device.writer = some writer)
  (carries : banks.Carries home holdings writer image file tree)
include opened carries

theorem write_performs (data : Bytes) (last : Bool) :
    tree.Performs (answer (.write data last) device) fun reply changed synced =>
      ∃ later file, reply = (.ok later.written, { device with writer := some later }) ∧
        later.written = writer.written + .ofNat data.length ∧
        banks.Carries home holdings later (image ++ data) file changed ∧
        synced = if last then [⟨banks.bankPath .secondary, .ok (image ++ data)⟩] else [] := by
  rw [answer, opened]
  refine FileTree.performs_bind (BankDirectory.write_performs carries data last) ?_
  rintro ⟨result, later⟩ changed synced ⟨succeeded, counted, ⟨file, carries⟩, rfl⟩
  dsimp only at succeeded
  rw [succeeded]
  exact FileTree.performs_done ⟨later, file, rfl, counted, carries, List.append_nil _⟩

theorem closeWriter_yields :
    tree.Yields (answer .closeWriter device) fun reply changed =>
      reply = ((), { device with writer := none }) ∧
        banks.Stands home (holdings.set (some image) .secondary) changed := by
  rw [answer, opened]
  refine FileTree.yields_bind (BankDirectory.close_yields carries) ?_
  exact fun _ _ stands => FileTree.yields_done ⟨rfl, stands⟩

end Writing

end FileDevice

end DualBank
