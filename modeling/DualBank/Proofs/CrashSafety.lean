import DualBank.Proofs.Settling
import DualBank.Proofs.Trial

/-! The power goes in the middle of an update, and comes back: what the bootloader does then, and
what settling the record comes to. -/

namespace DualBank

open Program Surroundings Site

/-- What comes of it when the power goes here and comes back: the bootloader takes this action, and
settling the record then comes to its end, whatever happens, and ends like this. -/
def Site.Recovers (site : Site) (banks : BankDirectory) (home : Location) (action : BootAction)
    (primary : Option Bytes) (resolution : Resolution) (told : Telling → Prop) : Prop :=
  site.files.Yields banks.boot fun booted files =>
    booted = .ok action ∧
    (∃ secondary scratch, banks.Stands home ⟨primary, secondary, scratch, action.trailer⟩ files) ∧
    (∃ value last, surroundings.Leads (Resolution.run, site.restarted files) (.done value, last)) ∧
    ∀ value last, surroundings.Leads (Resolution.run, site.restarted files) (.done value, last) →
      value = resolution ∧ told (Telling.notes.of last.history) ∧
      last.settings.record = ⟨.idle, none⟩ ∧
      ∃ secondary scratch, banks.Stands home ⟨primary, secondary, scratch, .settled⟩ last.files

def Setup.running (setup : Setup) (primary : Option Bytes) : Setup :=
  { setup with primary := primary }

section Recovering

variable {setup : Setup} {site : Site}

theorem recovers_of_ensures {holdings : Holdings} {action : BootAction} {resolution : Resolution}
    {told : Telling → Prop} {primary : Option Bytes}
    (banks : site.device.banks = setup.banks)
    (stands : setup.banks.Stands setup.home holdings site.files) (acts : holdings.action = action)
    (forward : action ≠ .revert) (booted : holdings.booted.primary = primary)
    (resolves : ∀ later : Site,
      later.Holds Telling.notes ((setup.running primary).Back action.trailer
        (· = site.settings) (· = ⟨[], false⟩)) →
      surroundings.Ensures Answerable
        (fun found later => found = resolution ∧ later.Holds Telling.notes
          ((setup.running primary).Back .settled (· = site.settings) told))
        (Resolution.resolve site.settings.record) later) :
    site.Recovers setup.banks setup.home action primary resolution told := by
  subst acts booted
  -- What is told is counted from the new start, so the history begins anew.
  refine FileTree.yields_mono (BankDirectory.boot_yields stands fun back => absurd back forward) ?_
  rintro result files ⟨rfl, stands⟩
  have found : (site.restarted files).Holds Telling.notes
      ((setup.running holdings.booted.primary).Back holdings.action.trailer
        (· = site.settings) (· = ⟨[], false⟩)) :=
    ⟨banks, rfl, rfl, _, _, stands⟩
  have ensured := resolution_ensures watches_answerable watches_answerable watches_answerable
    resolves found
  refine ⟨rfl, ⟨_, _, stands⟩, ends_of_ensures (fun _ _ answerable => answerable) ensured, ?_⟩
  intro value last leads
  obtain ⟨resolved, back⟩ := (ensures_leads leads ensured).ended
  exact ⟨resolved, back.told, back.stored, back.files⟩

theorem recovers_untested {secondary scratch : Option Bytes} {resolution : Resolution}
    {told : Telling → Prop} (banks : site.device.banks = setup.banks)
    (stands : setup.banks.Stands setup.home (setup.holdings secondary scratch) site.files)
    (resolves : ∀ later : Site,
      later.Holds Telling.notes (setup.Back .settled (· = site.settings) (· = ⟨[], false⟩)) →
      surroundings.Ensures Answerable
        (fun found later => found = resolution ∧ later.Holds Telling.notes
          (setup.Back .settled (· = site.settings) told))
        (Resolution.resolve site.settings.record) later) :
    site.Recovers setup.banks setup.home .normal setup.primary resolution told :=
  recovers_of_ensures banks stands rfl (by decide) rfl resolves

/-- What a record that an update left behind without a trial is settled as. -/
def Undone (setup : Setup) (site : Site) : Prop :=
  (site.settings.record.id = none ∧
    site.Recovers setup.banks setup.home .normal setup.primary .nothingPending
      (· = ⟨[], false⟩)) ∨
  ∃ error, site.settings.record.id = some setup.id ∧
    (site.settings.record.stage = .inProgress ∧ error = .internal ∨
      site.settings.record.stage = .pendingReboot ∧ error = .swapFail) ∧
    site.Recovers setup.banks setup.home .normal setup.primary (.failed setup.id error)
      (Announced setup.id.text .failure (some error) false)

theorem undone_of_recordable {secondary scratch : Option Bytes}
    (banks : site.device.banks = setup.banks) (recordable : setup.Recordable site.settings.record)
    (stands : setup.banks.Stands setup.home (setup.holdings secondary scratch) site.files) :
    Undone setup site := by
  rcases recordable with unknown | ⟨known, early | due⟩
  · exact .inl ⟨unknown,
      recovers_untested banks stands fun _ => resolve_nothing unknown watches_answerable⟩
  · have other : site.settings.record.stage ≠ .pendingReboot := by
      rw [early]
      decide
    exact .inr ⟨.internal, known, .inl ⟨early, rfl⟩,
      recovers_untested banks stands fun _ =>
        resolve_interrupted known other watches_answerable watches_answerable⟩
  · exact .inr ⟨.swapFail, known, .inr ⟨due, rfl⟩,
      recovers_untested banks stands fun _ =>
        resolve_unswapped known due watches_answerable watches_answerable⟩

/-- The bootloader was asked for a trial, and so the trial is on. -/
def Tried (setup : Setup) (site : Site) : Prop :=
  ∃ image, Transfer.Delivered (Transfer.latest site.history) image ∧
    site.Recovers setup.banks setup.home .testSwap (some image) (.confirmed setup.id)
      (Announced setup.id.text .success none true)

theorem tried_of_pending (pending : site.Holds Trace.notes setup.Pending) : Tried setup site := by
  obtain ⟨image, header, scratch, delivered, read, stands⟩ := pending.files
  have acts : (⟨setup.primary, some image, scratch, ⟨true, true⟩⟩ : Holdings).action =
      .testSwap := by
    simp [Holdings.action, read]
  refine ⟨image, delivered, recovers_of_ensures pending.banks stands acts (by decide) ?_ ?_⟩
  · rw [Holdings.booted, acts]
    rfl
  · have known : site.settings.record.id = some setup.id := by rw [pending.record]
    have due : site.settings.record.stage = .pendingReboot := by rw [pending.record]
    exact fun later => resolve_trial known due watches_answerable watches_answerable
      watches_answerable

theorem settled_of_durable (durable : site.Holds Trace.notes setup.Durable) :
    if site.history.any Happening.isTest then Tried setup site else Undone setup site := by
  rcases durable with calm | ⟨image, writing⟩ | pending
  · obtain ⟨secondary, scratch, _, stands⟩ := calm.files
    have untested : site.history.any Happening.isTest = false := calm.untested
    rw [untested]
    exact undone_of_recordable calm.banks calm.record stands
  · obtain ⟨writer, secondary, scratch, file, _, carries⟩ := writing.files
    have untested : site.history.any Happening.isTest = false := writing.untested
    rw [untested]
    exact undone_of_recordable writing.banks
      (Setup.recordable_inProgress _ writing.record) carries.stands
  · have tested : site.history.any Happening.isTest = true := pending.tested
    rw [tested]
    exact tried_of_pending pending

end Recovering

/-- Crash safety: wherever the power goes during an update, the update is undone, or it was handed
over and its trial is confirmed. -/
theorem power_cut_settled (policy : Policy) (request : Request) (valid : request.check = .ok ())
    (settings : SettingsTable) (idle : settings.record = ⟨.idle, none⟩) (device : FileDevice)
    (files : FileTree) (home : Location) (holdings : Holdings)
    (stands : device.banks.Stands home holdings files) (settled : holdings.trailer = .settled) :
    ∃ id : RequestId, id.text = request.uuid ∧ ∀ (rest : Agent Outcome) (site : Site),
      surroundings.Leads (Installation.run policy request, opening settings device files)
        (rest, site) →
      if site.history.any Happening.isTest then
        Tried ⟨device.banks, home, holdings.primary, id⟩ site
      else Undone ⟨device.banks, home, holdings.primary, id⟩ site := by
  obtain ⟨id, known, same, noZero⟩ := Request.exists_id valid
  refine ⟨id, same, fun rest site leads => ?_⟩
  exact settled_of_durable (Setup.durable_of_settled known noZero idle stands settled leads)

namespace Setup

def sampleDevice : FileDevice :=
  .inDirectory (.ofText "/") 0

def sampleFiles : FileTree :=
  ⟨[(["banks"], .directory), (["banks", "primary.bin"], .file [1, 2, 3])], []⟩

theorem isWhole_sample : sampleFiles.IsWhole := by
  intro location inside there
  rw [FileTree.node?, if_neg inside, sampleFiles, Lookup.lookup_cons, Lookup.lookup_cons] at there
  split at there
  · rename_i same
    subst same
    rfl
  · split at there
    · rename_i same
      subst same
      rfl
    · exact absurd rfl there

theorem stands_sample :
    sampleDevice.banks.Stands ["banks"] ⟨some [1, 2, 3], none, none, .settled⟩ sampleFiles where
  grounded := {
    whole := isWhole_sample
    top := rfl
    root := rfl
    short := by decide +kernel }
  content file := by cases file <;> rfl
  folder content := (by rintro ⟨⟩)
  temporary := (by rintro ⟨⟩)
  trailer := ⟨none, rfl, by decide +kernel⟩

end Setup

theorem power_cut_settled_sample :
    ∃ id : RequestId, id.text = Request.sample.uuid ∧ ∀ (rest : Agent Outcome) (site : Site),
      surroundings.Leads (Installation.run .standard .sample,
        opening .empty Setup.sampleDevice Setup.sampleFiles) (rest, site) →
      if site.history.any Happening.isTest then
        Tried ⟨Setup.sampleDevice.banks, ["banks"], some [1, 2, 3], id⟩ site
      else Undone ⟨Setup.sampleDevice.banks, ["banks"], some [1, 2, 3], id⟩ site :=
  power_cut_settled .standard .sample Request.check_sample .empty rfl Setup.sampleDevice
    Setup.sampleFiles ["banks"] _ Setup.stands_sample rfl

end DualBank
