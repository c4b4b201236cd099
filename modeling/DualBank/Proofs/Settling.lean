import DualBank.Bench
import DualBank.Resolution
import DualBank.Proofs.PowerCut

/-! Settling a record on banks that stand: what each part of it comes to, and what holds at every
call on the way. -/

namespace DualBank

open Program Surroundings Site

namespace Happening

def isConfirm : Happening → Bool
  | .exchange (.device .confirm) _ => true
  | _ => false

end Happening

structure Telling where
  events : List Event
  confirms : Bool

namespace Telling

def notes : Notes Telling where
  of history := ⟨history.filterMap Happening.event?, history.any Happening.isConfirm⟩
  cancel history accepted := by simp [Happening.event?, Happening.isConfirm]

def Ignored : Agent.Call → Prop
  | .device (.publish _) | .device .confirm => False
  | _ => True

theorem ignores_of_ignored {call : Agent.Call} (ignored : Ignored call) : notes.Ignores call := by
  intro history reply
  cases call with
  | device call =>
      cases call <;>
        first
          | exact ignored.elim
          | simp [notes, Happening.event?, Happening.isConfirm]
  | shared call => simp [notes, Happening.event?, Happening.isConfirm]
  | join => simp [notes, Happening.event?, Happening.isConfirm]

theorem notes_publish (history : List Happening) (event : Event)
    (reply : Device.Reply (.publish event)) :
    notes.of (history ++ [.exchange (.device (.publish event)) reply]) =
      ⟨(notes.of history).events ++ [event], (notes.of history).confirms⟩ := by
  simp [notes, Happening.event?, Happening.isConfirm]

theorem notes_confirm (history : List Happening) (reply : Device.Reply .confirm) :
    notes.of (history ++ [.exchange (.device .confirm) reply]) =
      ⟨(notes.of history).events, true⟩ := by
  simp [notes, Happening.event?, Happening.isConfirm]

end Telling

namespace Site

def Answerable (call : Agent.Call) (site : Site) : Prop :=
  ∃ reply after, surroundings.Answers call site reply after

/-- Only what is answered from files may stay without an answer. -/
theorem answerable_of_plain {call : Agent.Call} (site : Site)
    (plain : ∀ flash : Device.Call, call = .device flash → flash.isFlash = false) :
    Answerable call site := by
  cases call with
  | device call =>
      have calm := plain call rfl
      have reply := (Bench.answer call .fresh).1
      cases call <;> simp [Device.Call.isFlash] at calm
      case initSettings => exact ⟨_, _, _, ⟨rfl, rfl⟩, rfl⟩
      case save space key value => exact ⟨_, _, _, ⟨rfl, rfl⟩, rfl⟩
      case load space key => exact ⟨_, _, _, ⟨rfl, rfl⟩, rfl⟩
      case delete space key => exact ⟨_, _, _, ⟨rfl, rfl⟩, rfl⟩
      all_goals exact ⟨reply, _, site, rfl, rfl⟩
  | shared call =>
      cases call with
      | slot operation => exact ⟨_, _, rfl, rfl⟩
      | notify notification => exact ⟨(), _, rfl⟩
      | launch policy request => exact ⟨(), _, rfl⟩
  | join => exact ⟨.nothing, _, rfl⟩

end Site

structure Setup.Back (setup : Setup) (trailer : SwapTrailer) (stored : SettingsTable → Prop)
    (told : Telling → Prop) (settings : SettingsTable) (device : FileDevice) (files : FileTree)
    (telling : Telling) : Prop where
  banks : device.banks = setup.banks
  stored : stored settings
  told : told telling
  files : ∃ secondary scratch,
    setup.banks.Stands setup.home ⟨setup.primary, secondary, scratch, trailer⟩ files

def Site.Watches (guard : Agent.Call → Site → Prop)
    (assertion : SettingsTable → FileDevice → FileTree → Telling → Prop) : Prop :=
  ∀ call (site : Site), site.Holds Telling.notes assertion → Answerable call site → guard call site

theorem spares_of_whispers {call : Agent.Call} (whispers : call.Whispers) :
    Spares call ∧ Telling.Ignored call := by
  unfold Agent.Call.Whispers at whispers
  split at whispers
  · exact ⟨quiet_now.spares, trivial⟩
  · exact ⟨quiet_log.spares, trivial⟩
  · exact ⟨(quiet_notify _).spares, trivial⟩
  · contradiction

theorem watches_answerable
    {assertion : SettingsTable → FileDevice → FileTree → Telling → Prop} :
    Watches Answerable assertion :=
  fun _ _ _ answerable => answerable

theorem whispers_withstands {guard : Agent.Call → Site → Prop}
    {assertion : SettingsTable → FileDevice → FileTree → Telling → Prop}
    (watches : Watches guard assertion) :
    surroundings.Withstands guard Agent.Call.Whispers (Site.Holds Telling.notes assertion) where
  stable := stable_holds
  kept call whispers := by
    obtain ⟨spares, ignored⟩ := spares_of_whispers whispers
    exact keeps_holds spares (Telling.ignores_of_ignored ignored)
  guarded call site whispers holds :=
    watches call site holds (answerable_of_plain site (spares_of_whispers whispers).1.2)

section Steps

variable {guard : Agent.Call → Site → Prop} {α : Type} {site : Site} {post : α → Site → Prop}
  {assertion : SettingsTable → FileDevice → FileTree → Telling → Prop}
  (watches : Watches guard assertion) (holds : site.Holds Telling.notes assertion)
include watches holds

theorem ensures_aside {call : Agent.Call} (spares : Spares call) (ignored : Telling.Ignored call)
    {next : Agent.interface.Reply call → Agent α}
    (onward : ∀ reply later, Site.Holds Telling.notes assertion later →
      surroundings.Ensures guard post (next reply) later) :
    surroundings.Ensures guard post (.ask call next) site :=
  ensures_spared holds spares (Telling.ignores_of_ignored ignored)
    (fun later still => watches _ later still (answerable_of_plain later spares.2)) onward

theorem ensures_asked (call : Device.Call) (flash : call.isFlash = true)
    {next : Device.Reply call → Agent α}
    (reached : Device.Reply call → SettingsTable → FileDevice → FileTree → Telling → Prop)
    (noted : Telling → Telling)
    (notes : ∀ history (reply : Device.Reply call),
      Telling.notes.of (history ++ [.exchange (.device call) reply]) =
        noted (Telling.notes.of history))
    (yields : ∀ settings device files telling, assertion settings device files telling →
      files.Yields (FileDevice.answer call device) fun reply changed =>
        reached reply.1 settings reply.2 changed (noted telling))
    (onward : ∀ (reply : Device.Reply call) later, Site.Holds Telling.notes (reached reply) later →
      surroundings.Ensures guard post (next reply) later) :
    surroundings.Ensures guard post (.ask (.device call) next) site :=
  ensures_flash holds call flash
    (fun _ still => watches _ _ still (answered_of_yields flash (yields _ _ _ _ still))) reached
    (fun _ => noted) notes yields onward

end Steps

section Settling

variable {guard : Agent.Call → Site → Prop} {setup : Setup} {trailer : SwapTrailer}
  {stored : SettingsTable → Prop} {told : Telling → Prop} {site : Site}

theorem ensures_read {α : Type} {post : α → Site → Prop} {settings : SettingsTable}
    (watches : Watches guard (setup.Back trailer (· = settings) told))
    (back : site.Holds Telling.notes (setup.Back trailer (· = settings) told))
    (space key : String) {next : Except Failure (Option Bytes) → Agent α}
    (onward : ∀ later, Site.Holds Telling.notes (setup.Back trailer (· = settings) told) later →
      surroundings.Ensures guard post (next (.ok (settings.load space key))) later) :
    surroundings.Ensures guard post (.ask (.device (.load space key)) next) site := by
  refine ensures_settings back (.load space key) (Telling.ignores_of_ignored trivial)
    (fun later still => watches _ later still (answerable_of_plain later (by rintro flash ⟨⟩; rfl)))
    (fun settings => .ok (settings.load space key)) (fun settings => settings)
    (fun _ _ _ serves => serves) ?_
  rintro found later ⟨same, back⟩
  rw [show found = settings from back.stored]
  exact onward later ⟨back.banks, same.trans back.stored, back.told, back.files⟩

theorem load_ensures {settings : SettingsTable}
    (watches : Watches guard (setup.Back trailer (· = settings) told))
    (back : site.Holds Telling.notes (setup.Back trailer (· = settings) told)) :
    surroundings.Ensures guard
      (fun result later => result = .ok settings.record ∧
        later.Holds Telling.notes (setup.Back trailer (· = settings) told))
      Record.load site := by
  simp only [Record.load, Agent.device, Agent.log, bind_eq, ask_bind, done_bind, pure_eq_done]
  refine ensures_read watches back _ _ ?_
  intro site back
  simp only [Record.orFail, pure_eq_done, done_bind]
  refine ensures_read watches back _ _ ?_
  intro site back
  cases Record.unknownByte? (settings.load Record.space Record.stageKey) with
  | none => exact ensures_done stable_holds back fun _ holds => ⟨rfl, holds⟩
  | some byte =>
      refine ensures_aside watches back quiet_log.spares trivial ?_
      intro _ site back
      exact ensures_done stable_holds back fun _ holds => ⟨rfl, holds⟩

def Announced (uuid : String) (phase : Phase) (error : Option UpdateError) (confirms : Bool)
    (telling : Telling) : Prop :=
  ∃ time, telling = ⟨[Event.compose uuid phase 0 error "" time], confirms⟩

section Announcing

variable {confirms : Bool} {uuid : String} {phase : Phase} {error : Option UpdateError}
  (watches : Watches guard (setup.Back trailer stored (· = ⟨[], confirms⟩)))
  (watchesTold : Watches guard
    (setup.Back trailer stored (Announced uuid phase error confirms)))
include watches watchesTold

theorem publish_ensures
    (back : site.Holds Telling.notes (setup.Back trailer stored (· = ⟨[], confirms⟩))) :
    surroundings.Ensures guard
      (fun _ later => later.Holds Telling.notes
        (setup.Back trailer stored (Announced uuid phase error confirms)))
      (Announcement.publish uuid phase 0 error "") site := by
  have spares (event : Event) : Spares (.device (.publish event)) :=
    ⟨fun impossible => impossible, by rintro flash ⟨⟩; rfl⟩
  refine ensures_mono (ensures_publish (whispers_withstands watches)
    (fun _ => whispers_withstands watchesTold)
    (fun event later still => watches _ later still (answerable_of_plain later (spares event).2))
    ?_ back) ?_
  · intro time later reply after still answers
    rw [noted_of_answers (spares _) (fun _ => (by simp)) answers]
    refine ⟨still.banks, still.stored, ⟨time, ?_⟩, still.files⟩
    refine (Telling.notes_publish later.history _ reply).trans ?_
    rw [still.told]
    rfl
  · rintro _ later ⟨_, told⟩
    exact told

end Announcing

theorem fail_ensures {confirms : Bool} (id : RequestId) (error : UpdateError)
    (watches : Watches guard (setup.Back trailer stored (· = ⟨[], confirms⟩)))
    (watchesTold : Watches guard
      (setup.Back trailer stored (Announced id.text .failure (some error) confirms)))
    (back : site.Holds Telling.notes (setup.Back trailer stored (· = ⟨[], confirms⟩))) :
    surroundings.Ensures guard
      (fun resolution later => resolution = .failed id error ∧ later.Holds Telling.notes
        (setup.Back trailer stored (Announced id.text .failure (some error) confirms)))
      (Resolution.fail id error) site := by
  refine ensures_bind (publish_ensures watches watchesTold back) ?_
  intro _ site back
  exact ensures_done stable_holds back fun _ holds => ⟨rfl, holds⟩

theorem reset_ensures (watches : Watches guard (setup.Back trailer stored told))
    (watchesForgotten : Watches guard (setup.Back trailer (·.record.id = none) told))
    (back : site.Holds Telling.notes (setup.Back trailer stored told)) :
    surroundings.Ensures guard
      (fun result later => result = .ok () ∧ later.Holds Telling.notes
        (setup.Back trailer (·.record = ⟨.idle, none⟩) told))
      Record.reset site := by
  simp only [Record.reset, Record.deleteId, Record.saveStage, Agent.device, bind_eq, ask_bind,
    done_bind, pure_eq_done]
  refine ensures_settings back (.delete Record.space Record.idKey)
    (Telling.ignores_of_ignored trivial)
    (fun later still => watches _ later still (answerable_of_plain later (by rintro flash ⟨⟩; rfl)))
    (fun _ => .ok ()) (·.delete Record.space Record.idKey) (fun _ _ _ serves => serves) ?_
  rintro old site ⟨deleted, back⟩
  have forgotten : site.Holds Telling.notes (setup.Back trailer (·.record.id = none) told) := by
    refine ⟨back.banks, ?_, back.told, back.files⟩
    rw [deleted, SettingsTable.record_delete_id]
  simp only [Record.orFail, pure_eq_done, done_bind]
  refine ensures_settings forgotten (.save Record.space Record.stageKey [Stage.idle.byte])
    (Telling.ignores_of_ignored trivial)
    (fun later still =>
      watchesForgotten _ later still (answerable_of_plain later (by rintro flash ⟨⟩; rfl)))
    (fun _ => .ok ()) (·.save Record.space Record.stageKey [Stage.idle.byte])
    (fun _ _ _ serves => serves) ?_
  rintro old site ⟨saved, back⟩
  have idle : site.Holds Telling.notes
      (setup.Back trailer (·.record = ⟨.idle, none⟩) told) := by
    refine ⟨back.banks, ?_, back.told, back.files⟩
    rw [saved, SettingsTable.record_save_stage, back.stored]
  simp only [done_bind]
  exact ensures_done stable_holds idle fun _ holds => ⟨rfl, holds⟩

section Flashing

variable {settings : SettingsTable} {device : FileDevice} {files : FileTree} {telling : Telling}
  (back : setup.Back trailer stored told settings device files telling)
include back

theorem swapType_yields :
    files.Yields (FileDevice.answer .swapType device) fun reply changed =>
      reply.1 = (if trailer.testPending then .test else .none) ∧
        setup.Back trailer stored told settings reply.2 changed telling := by
  obtain ⟨secondary, scratch, stands⟩ := back.files
  rw [FileDevice.answer, back.banks]
  refine FileTree.yields_mono (FileDevice.unchanged_yields
    (BankDirectory.swapType_yields stands)) ?_
  rintro ⟨result, other⟩ changed ⟨rfl, answered, rfl⟩
  exact ⟨answered, back⟩

theorem isConfirmed_yields :
    files.Yields (FileDevice.answer .isConfirmed device) fun reply changed =>
      reply.1 = trailer.confirmed ∧
        setup.Back trailer stored told settings reply.2 changed telling := by
  obtain ⟨secondary, scratch, stands⟩ := back.files
  rw [FileDevice.answer, back.banks]
  refine FileTree.yields_mono (FileDevice.unchanged_yields
    (BankDirectory.isConfirmed_yields stands)) ?_
  rintro ⟨result, other⟩ changed ⟨rfl, answered, rfl⟩
  exact ⟨answered, back⟩

theorem confirm_yields (reached : Telling → Prop) (reaches : reached ⟨telling.events, true⟩) :
    files.Yields (FileDevice.answer .confirm device) fun reply changed => reply.1 = .ok () ∧
      setup.Back ⟨trailer.testPending, true⟩ stored reached settings reply.2 changed
        ⟨telling.events, true⟩ := by
  obtain ⟨secondary, scratch, stands⟩ := back.files
  rw [FileDevice.answer, back.banks]
  refine FileTree.yields_mono (FileDevice.unchanged_yields
    (BankDirectory.confirm_yields stands)) ?_
  rintro ⟨result, other⟩ changed ⟨rfl, answered, stands⟩
  exact ⟨answered, back.banks, back.stored, reaches, secondary, scratch, stands⟩

end Flashing

section Asking

variable {α : Type} {post : α → Site → Prop}
  (watches : Watches guard (setup.Back trailer stored told))
  (back : site.Holds Telling.notes (setup.Back trailer stored told))
include watches back

theorem ensures_swapType {next : SwapType → Agent α}
    (onward : ∀ later, Site.Holds Telling.notes (setup.Back trailer stored told) later →
      surroundings.Ensures guard post
        (next (if trailer.testPending then .test else .none)) later) :
    surroundings.Ensures guard post (.ask (.device .swapType) next) site := by
  have ignored : Telling.Ignored (.device .swapType) := trivial
  refine ensures_asked watches back .swapType rfl
    (fun (reply : SwapType) settings device files telling =>
      reply = (if trailer.testPending then .test else .none) ∧
        setup.Back trailer stored told settings device files telling)
    (fun telling => telling) (Telling.ignores_of_ignored ignored)
    (fun _ _ _ _ => swapType_yields) ?_
  rintro reply later ⟨rfl, back⟩
  exact onward later back

theorem ensures_isConfirmed {next : Bool → Agent α}
    (onward : ∀ later, Site.Holds Telling.notes (setup.Back trailer stored told) later →
      surroundings.Ensures guard post (next trailer.confirmed) later) :
    surroundings.Ensures guard post (.ask (.device .isConfirmed) next) site := by
  have ignored : Telling.Ignored (.device .isConfirmed) := trivial
  refine ensures_asked watches back .isConfirmed rfl
    (fun (reply : Bool) settings device files telling => reply = trailer.confirmed ∧
      setup.Back trailer stored told settings device files telling)
    (fun telling => telling) (Telling.ignores_of_ignored ignored)
    (fun _ _ _ _ => isConfirmed_yields) ?_
  rintro reply later ⟨rfl, back⟩
  exact onward later back

end Asking

section Resolving

variable {record : Record} {id : RequestId}

theorem resolve_nothing (unknown : record.id = none)
    (watches : Watches guard (setup.Back trailer stored told))
    (back : site.Holds Telling.notes (setup.Back trailer stored told)) :
    surroundings.Ensures guard
      (fun resolution later => resolution = .nothingPending ∧
        later.Holds Telling.notes (setup.Back trailer stored told))
      (Resolution.resolve record) site := by
  simp only [Resolution.resolve, unknown, Agent.log, Agent.device, bind_eq, ask_bind, done_bind,
    pure_eq_done]
  refine ensures_aside watches back quiet_log.spares trivial ?_
  intro _ site back
  exact ensures_done stable_holds back fun _ holds => ⟨rfl, holds⟩

theorem resolve_interrupted (known : record.id = some id) (early : record.stage ≠ .pendingReboot)
    (watches : Watches guard (setup.Back trailer stored (· = ⟨[], false⟩)))
    (watchesTold : Watches guard
      (setup.Back trailer stored (Announced id.text .failure (some .internal) false)))
    (back : site.Holds Telling.notes (setup.Back trailer stored (· = ⟨[], false⟩))) :
    surroundings.Ensures guard
      (fun resolution later => resolution = .failed id .internal ∧ later.Holds Telling.notes
        (setup.Back trailer stored (Announced id.text .failure (some .internal) false)))
      (Resolution.resolve record) site := by
  simp only [Resolution.resolve, known, if_neg early, Agent.log, Agent.device, bind_eq, ask_bind,
    done_bind, pure_eq_done]
  refine ensures_aside watches back quiet_log.spares trivial ?_
  intro _ site back
  refine ensures_aside watches back quiet_log.spares trivial ?_
  intro _ site back
  exact fail_ensures id .internal watches watchesTold back

/-- A swap that is still to come, or is over and permanent, was not the one of this update. -/
theorem resolve_unswapped (known : record.id = some id) (due : record.stage = .pendingReboot)
    (watches : Watches guard (setup.Back .settled stored (· = ⟨[], false⟩)))
    (watchesTold : Watches guard
      (setup.Back .settled stored (Announced id.text .failure (some .swapFail) false)))
    (back : site.Holds Telling.notes (setup.Back .settled stored (· = ⟨[], false⟩))) :
    surroundings.Ensures guard
      (fun resolution later => resolution = .failed id .swapFail ∧ later.Holds Telling.notes
        (setup.Back .settled stored (Announced id.text .failure (some .swapFail) false)))
      (Resolution.resolve record) site := by
  simp only [Resolution.resolve, known, due, if_true, Agent.log, Agent.device, bind_eq, ask_bind,
    done_bind, pure_eq_done]
  refine ensures_aside watches back quiet_log.spares trivial ?_
  intro _ site back
  refine ensures_swapType watches back ?_
  intro site back
  refine ensures_isConfirmed watches back ?_
  intro site back
  refine ensures_aside watches back quiet_log.spares trivial ?_
  intro _ site back
  exact fail_ensures id .swapFail watches watchesTold back

theorem resolve_trial (known : record.id = some id) (due : record.stage = .pendingReboot)
    (watches : Watches guard (setup.Back .onTrial stored (· = ⟨[], false⟩)))
    (watchesConfirmed : Watches guard (setup.Back .settled stored (· = ⟨[], true⟩)))
    (watchesTold : Watches guard
      (setup.Back .settled stored (Announced id.text .success none true)))
    (back : site.Holds Telling.notes (setup.Back .onTrial stored (· = ⟨[], false⟩))) :
    surroundings.Ensures guard
      (fun resolution later => resolution = .confirmed id ∧ later.Holds Telling.notes
        (setup.Back .settled stored (Announced id.text .success none true)))
      (Resolution.resolve record) site := by
  simp only [Resolution.resolve, known, due, if_true, Agent.log, Agent.device, bind_eq, ask_bind,
    done_bind, pure_eq_done]
  refine ensures_aside watches back quiet_log.spares trivial ?_
  intro _ site back
  refine ensures_swapType watches back ?_
  intro site back
  refine ensures_isConfirmed watches back ?_
  intro site back
  refine ensures_asked watches back .confirm rfl
    (fun (reply : Except FlashError Unit) settings device files telling => reply = .ok () ∧
      setup.Back .settled stored (· = ⟨[], true⟩) settings device files telling)
    (fun telling => ⟨telling.events, true⟩) Telling.notes_confirm
    (fun settings device files telling back => confirm_yields back _ (by rw [back.told])) ?_
  rintro reply site ⟨rfl, back⟩
  -- From here on the image is permanent, while nothing stored says so.
  refine ensures_aside watchesConfirmed back quiet_log.spares trivial ?_
  intro _ site back
  refine ensures_bind (publish_ensures watchesConfirmed watchesTold back) ?_
  intro _ site back
  exact ensures_done stable_holds back fun _ holds => ⟨rfl, holds⟩

theorem resolution_ensures {settings : SettingsTable} {resolution : Resolution}
    {last : SwapTrailer} {reached : Telling → Prop}
    (watches : Watches guard (setup.Back trailer (· = settings) told))
    (watchesResolved : Watches guard (setup.Back last (· = settings) reached))
    (watchesForgotten : Watches guard (setup.Back last (·.record.id = none) reached))
    (resolves : ∀ later : Site,
      later.Holds Telling.notes (setup.Back trailer (· = settings) told) →
      surroundings.Ensures guard
        (fun found later => found = resolution ∧ later.Holds Telling.notes
          (setup.Back last (· = settings) reached))
        (Resolution.resolve settings.record) later)
    (back : site.Holds Telling.notes (setup.Back trailer (· = settings) told)) :
    surroundings.Ensures guard
      (fun found later => found = resolution ∧ later.Holds Telling.notes
        (setup.Back last (·.record = ⟨.idle, none⟩) reached))
      Resolution.run site := by
  simp only [Resolution.run, Agent.log, Agent.device, bind_eq, ask_bind, done_bind, pure_eq_done]
  refine ensures_bind (load_ensures watches back) ?_
  rintro result site ⟨rfl, back⟩
  dsimp only
  refine ensures_bind (resolves site back) ?_
  rintro found site ⟨rfl, back⟩
  refine ensures_bind (reset_ensures watchesResolved watchesForgotten back) ?_
  rintro result site ⟨rfl, back⟩
  exact ensures_done stable_holds back fun _ holds => ⟨rfl, holds⟩

end Resolving

end Settling

end DualBank
