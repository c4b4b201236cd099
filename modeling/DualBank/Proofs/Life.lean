import DualBank.Proofs.CrashSafety
import DualBank.Proofs.Fallback

/-! The image to fall back on, through any number of starts, updates, faults and power cuts. -/

namespace DualBank

open Program Surroundings Outpost

inductive Activity where
  | off
  | idle
  | settling (rest : Agent Resolution)
  | installing (rest : Agent Outcome)

structure Life where
  activity : Activity
  outpost : Outpost

namespace Life

/-- The life of the device: its power comes and goes, at any time, and in between it settles what
was left behind, and installs the updates that are admitted, one after the other. -/
inductive Step (admits : Outpost → Prop) : Life → Life → Prop
  | boot {outpost : Outpost} {machine later : Machine} {action : BootAction} :
      machine.files = outpost.files →
      machine.run outpost.device.banks.boot = (.finished (.ok action), later) →
      Step admits ⟨.off, outpost⟩ ⟨.settling Resolution.run, outpost.restarted later.files⟩
  | bootFails {outpost : Outpost} {machine later : Machine} {failure : Failure} :
      machine.files = outpost.files →
      machine.run outpost.device.banks.boot = (.finished (.error failure), later) →
      Step admits ⟨.off, outpost⟩ ⟨.off, outpost.restarted later.files⟩
  | recover (outpost : Outpost) : Step admits ⟨.idle, outpost⟩ ⟨.settling Resolution.run, outpost⟩
  | settle {rest after : Agent Resolution} {outpost later : Outpost} :
      surroundings.Step (rest, outpost) (after, later) →
      Step admits ⟨.settling rest, outpost⟩ ⟨.settling after, later⟩
  | settled (resolution : Resolution) (outpost : Outpost) :
      Step admits ⟨.settling (.done resolution), outpost⟩ ⟨.idle, outpost⟩
  | submit (policy : Policy) {request : Request} {outpost : Outpost} :
      request.check = .ok () → admits outpost →
      Step admits ⟨.idle, outpost⟩ ⟨.installing (Installation.run policy request), outpost⟩
  | install {rest after : Agent Outcome} {outpost later : Outpost} :
      surroundings.Step (rest, outpost) (after, later) →
      Step admits ⟨.installing rest, outpost⟩ ⟨.installing after, later⟩
  | installed {outcome : Outcome} (outpost : Outpost) : outcome ≠ .rebooting →
      Step admits ⟨.installing (.done outcome), outpost⟩ ⟨.idle, outpost⟩
  | cut (life : Life) : Step admits life ⟨.off, life.outpost.restarted life.outpost.files⟩

def Reaches (admits : Outpost → Prop) : Life → Life → Prop :=
  Relation.ReflTransGen (Step admits)

def start (device : FileDevice) (files : FileTree) : Life :=
  ⟨.off, ⟨{ device with writer := none }, files, [], []⟩⟩

def Safe (banks : BankDirectory) (home : Location) (initial : Bytes) (life : Life) : Prop :=
  match life.activity with
  | .off | .idle => life.outpost.Keeps banks home initial Holdings.Sound
  | .settling rest => surroundings.Ensures (guard banks home initial)
      (fun _ later => later.Keeps banks home initial Holdings.Sound) rest life.outpost
  | .installing rest => surroundings.Ensures (guard banks home initial)
      (fun _ later => later.Keeps banks home initial Holdings.Sound) rest life.outpost

variable {banks : BankDirectory} {home : Location} {initial : Bytes} {life later : Life}
  {admits : Outpost → Prop}

theorem sound_of_ensures {α : Type} {program : Agent α} {outpost : Outpost}
    (ensured : surroundings.Ensures (guard banks home initial)
      (fun _ later => later.Keeps banks home initial Holdings.Sound) program outpost) :
    outpost.Keeps banks home initial Holdings.Sound :=
  holds_of_ensures ensured .refl

theorem sound_of_safe (safe : life.Safe banks home initial) :
    life.outpost.Keeps banks home initial Holdings.Sound := by
  obtain ⟨activity, outpost⟩ := life
  cases activity with
  | off | idle => exact safe
  | settling rest | installing rest => exact sound_of_ensures safe

theorem safe_step (rests : ∀ outpost, admits outpost → outpost.Rests)
    (step : Step admits life later) (safe : life.Safe banks home initial) :
    later.Safe banks home initial := by
  -- Only an admission asks for more than a sound state: it gives the secondary bank away.
  cases step with
  | @boot outpost machine after action held ran =>
      rw [show outpost.device.banks = banks from same_of_keeps safe] at ran
      obtain ⟨_, _, _, sound, _⟩ := (Outpost.boot_yields safe).of_run held ran
      exact Outpost.resolution_ensures sound
  | @bootFails outpost machine after failure held ran =>
      rw [show outpost.device.banks = banks from same_of_keeps safe] at ran
      obtain ⟨_, _, impossible, _⟩ := (Outpost.boot_yields safe).of_run held ran
      contradiction
  | recover outpost => exact Outpost.resolution_ensures safe
  | settle step => exact ensures_step step safe
  | settled resolution outpost => exact sound_of_ensures safe
  | @submit policy request outpost valid admitted =>
      have free := free_of_rests (rests outpost admitted) safe
      exact Outpost.installation_ensures policy request free
  | install step => exact ensures_step step safe
  | installed outpost => exact sound_of_ensures safe
  | cut life =>
      obtain ⟨holdings, shows, sound⟩ := sound_of_safe safe
      exact keeps_restarted Holdings.grows_sound shows.same shows.stands sound

theorem safe_of_reaches (rests : ∀ outpost, admits outpost → outpost.Rests)
    (reaches : Reaches admits life later) (safe : life.Safe banks home initial) :
    later.Safe banks home initial := by
  induction reaches with
  | refl => exact safe
  | tail _ step ih => exact safe_step rests step ih

end Life

/-- The image to fall back on is never lost, as long as updates are admitted only while the
bootloader has nothing to do: wherever the power goes, its next pass succeeds, and the image that
runs then is the one that ran in the beginning, or all that was handed over in a download whose
attempt ended well, in this process or in one before it. -/
theorem fallback_kept (admits : Outpost → Prop) (rests : ∀ outpost, admits outpost → outpost.Rests)
    (device : FileDevice) (files : FileTree) (home : Location) (holdings : Holdings)
    (stands : device.banks.Stands home holdings files) (initial : Bytes)
    (running : holdings.primary = some initial) (confirmed : holdings.trailer = .settled)
    (life : Life) (reaches : Life.Reaches admits (.start device files) life) :
    life.outpost.files.Yields device.banks.boot fun result after => ∃ action image,
      result = .ok action ∧ after.read (device.banks.bankPath .primary) = .ok image ∧
        (image = initial ∨ ∃ history ∈ life.outpost.history :: life.outpost.past,
          Installation.Fetched history image) := by
  have safe : (Life.start device files).Safe device.banks home initial := by
    refine ⟨holdings, ⟨rfl, stands, ?_⟩,
      Holdings.sound_of_free ⟨⟨initial, .inl rfl, running⟩, confirmed⟩⟩
    rintro writer ⟨⟩
  have sound := Life.sound_of_safe (Life.safe_of_reaches rests reaches safe)
  refine FileTree.yields_mono (Outpost.boot_yields sound) ?_
  rintro result after ⟨action, image, booted, _, runs, mayRun⟩
  exact ⟨action, image, booted, runs, mayRun⟩

namespace Outpost

def sampleImage : Bytes :=
  Image.Header.encode 0 ⟨2, 0, 0, 0⟩

def sampleReply : (call : Agent.Call) → Agent.Reply call
  | .device (.load ..) => .error (.other "refused")
  | .device call => (Bench.answer call
      { Bench.fresh with script := [.ofChunks (.ok ()) [⟨sampleImage, 32, 32, true⟩]] }).1
  | .shared (.slot _) => true
  | .shared (.notify _) | .shared (.launch ..) => ()
  | .join => .nothing

theorem sampleReply_obeys (url : String) (headers : List (String × String)) (timeout : UInt64) :
    Download.Obeys (sampleReply (.device (.download url headers timeout))) :=
  Download.obeys_ofChunks (.ok ()) [⟨sampleImage, 32, 32, true⟩]

def answerUntil (stops : Device.Call → Bool) :
    (call : Agent.Call) → Outpost → Option (Agent.Reply call × Outpost)
  | .device call, outpost =>
      if stops call then none
      else if call.isFlash then
        match (Machine.holding outpost.files).run (FileDevice.answer call outpost.device) with
        | (.finished (reply, device), later) =>
            some (reply, { outpost with device := device, files := later.files }.note
              (.exchange (.device call) reply))
        | (.exited _, _) => none
      else
        some (sampleReply (.device call),
          outpost.note (.exchange (.device call) (sampleReply (.device call))))
  | call, outpost => some (sampleReply call, outpost.note (.exchange call (sampleReply call)))

theorem answers_of_answerUntil (stops : Device.Call → Bool) (call : Agent.Call) (outpost : Outpost)
    (reply : Agent.Reply call) (after : Outpost)
    (answered : answerUntil stops call outpost = some (reply, after)) :
    surroundings.Answers call outpost reply after := by
  cases call with
  | device call =>
      rw [answerUntil] at answered
      split at answered
      · contradiction
      · split at answered
        · rename_i flash
          split at answered
          · rename_i reply device later ran
            cases answered
            refine ⟨_, ?_, rfl⟩
            have flashes : outpost.Flashes call reply device later.files :=
              ⟨_, later, rfl, rfl, ran⟩
            cases call <;>
              first
              | exact absurd flash Bool.false_ne_true
              | exact ⟨device, later.files, .inl flashes, rfl⟩
          · contradiction
        · rename_i calm
          cases answered
          refine ⟨outpost, ?_, rfl⟩
          cases call with
          | download url headers timeout => exact ⟨sampleReply_obeys .., rfl⟩
          | _ => first | exact absurd rfl calm | exact (rfl : outpost = outpost)
  | shared call =>
      cases answered
      rfl
  | join =>
      cases answered
      rfl

def proceed {α : Type} (program : Agent α) (stops : Device.Call → Bool) (outpost : Outpost) :
    Agent α × Outpost :=
  program.advance (answerUntil stops) outpost

theorem leads_proceed {α : Type} (program : Agent α) (stops : Device.Call → Bool)
    (outpost : Outpost) : surroundings.Leads (program, outpost) (outpost.proceed program stops) :=
  leads_advance surroundings id (answerUntil stops) (answers_of_answerUntil stops) program outpost

def booted (outpost : Outpost) : Ended (Except Failure BootAction) × Machine :=
  (Machine.holding outpost.files).run outpost.device.banks.boot

def boots (outpost : Outpost) (action : BootAction) : Bool :=
  match outpost.booted.1 with
  | .finished (.ok found) => found = action
  | _ => false

def onward (outpost : Outpost) : Outpost :=
  outpost.restarted outpost.booted.2.files

end Outpost

def Program.isDone {interface : Interface} {α : Type} : Program interface α → Bool
  | .done _ => true
  | .ask .. => false

namespace Life

theorem reaches_boot {outpost : Outpost} {action : BootAction}
    (reaches : Reaches admits life ⟨.off, outpost⟩) (boots : outpost.boots action = true) :
    Reaches admits life ⟨.settling Resolution.run, outpost.onward⟩ := by
  unfold Outpost.boots at boots
  split at boots
  · rename_i found ended
    exact reaches.tail (.boot rfl (Prod.ext ended rfl))
  · contradiction

theorem reaches_work {α : Type} (work : Agent α → Activity)
    (steps : ∀ {before after : Agent α × Outpost}, surroundings.Step before after →
      Step admits ⟨work before.1, before.2⟩ ⟨work after.1, after.2⟩)
    {program : Agent α} {outpost : Outpost} (reaches : Reaches admits life ⟨work program, outpost⟩)
    (stops : Device.Call → Bool) :
    Reaches admits life
      ⟨work (outpost.proceed program stops).1, (outpost.proceed program stops).2⟩ := by
  have onward := Outpost.leads_proceed program stops outpost
  exact reaches.trans (Relation.ReflTransGen.lift
    (fun state : Agent α × Outpost => (⟨work state.1, state.2⟩ : Life))
    (fun _ _ => steps) _ _ onward)

theorem reaches_idle {outpost : Outpost}
    (reaches : Reaches admits life ⟨.settling Resolution.run, outpost⟩)
    (ends : (outpost.proceed Resolution.run fun _ => false).1.isDone = true) :
    Reaches admits life ⟨.idle, (outpost.proceed Resolution.run fun _ => false).2⟩ := by
  have settled := reaches_work .settling .settle reaches fun _ => false
  generalize outpost.proceed Resolution.run (fun _ => false) = state at settled ends
  obtain ⟨rest, later⟩ := state
  cases rest with
  | done resolution => exact settled.tail (.settled resolution later)
  | ask call next => contradiction

def sampleStart : Life :=
  .start Setup.sampleDevice Setup.sampleFiles

def turnedOn (outpost : Outpost) : Outpost :=
  (outpost.onward.proceed Resolution.run fun _ => false).2

def updated (outpost : Outpost) (stops : Device.Call → Bool) : Outpost :=
  let cut := (outpost.proceed (Installation.run .standard .sample) stops).2
  cut.restarted cut.files

def sampleTrial : Outpost :=
  updated (turnedOn sampleStart.outpost) fun _ => false

def sampleErased : Outpost :=
  updated (turnedOn sampleTrial) fun call => match call with
    | .openWriter _ => true
    | _ => false

theorem reaches_updated {outpost : Outpost} {action : BootAction}
    (reaches : Reaches admits life ⟨.off, outpost⟩) (boots : outpost.boots action = true)
    (ends : (outpost.onward.proceed Resolution.run fun _ => false).1.isDone = true)
    (admitted : admits (turnedOn outpost)) (stops : Device.Call → Bool) :
    Reaches admits life ⟨.off, updated (turnedOn outpost) stops⟩ := by
  have idle := reaches_idle (reaches_boot reaches boots) ends
  have begun := idle.tail (.submit .standard Request.check_sample admitted)
  exact (reaches_work .installing .install begun stops).tail (.cut _)

theorem reaches_sampleTrial (admits : Outpost → Prop)
    (admitted : admits (turnedOn sampleStart.outpost)) :
    Reaches admits sampleStart ⟨.off, sampleTrial⟩ := by
  have boots : sampleStart.outpost.boots .normal = true := by decide +kernel
  have ends : (sampleStart.outpost.onward.proceed Resolution.run fun _ => false).1.isDone =
      true := by
    decide +kernel
  exact reaches_updated .refl boots ends admitted _

theorem rests_sample : (turnedOn sampleStart.outpost).Rests := by
  have root : (turnedOn sampleStart.outpost).files.find
      (turnedOn sampleStart.outpost).device.banks.root = .ok (["banks"], .directory) := by
    decide +kernel
  have there : (turnedOn sampleStart.outpost).files.node? ["banks", "boot", "swap"] =
      some (.file SwapTrailer.settled.toJson.encode) := by decide +kernel
  intro home holdings stands
  cases stands.grounded.root.symm.trans root
  obtain ⟨stored, same, means⟩ := stands.trailer
  cases stored with
  | none => cases same.symm.trans there
  | some content =>
      cases same.symm.trans there
      exact means.symm.trans (BankDirectory.trailerOf_encode .settled)

end Life

open Life

theorem fallback_kept_sample :
    Reaches Outpost.Rests sampleStart ⟨.off, sampleTrial⟩ ∧
      sampleTrial.files.Yields Setup.sampleDevice.banks.boot fun result after =>
        ∃ action image, result = .ok action ∧
          after.read (Setup.sampleDevice.banks.bankPath .primary) = .ok image ∧
          (image = [1, 2, 3] ∨ ∃ history ∈ sampleTrial.history :: sampleTrial.past,
            Installation.Fetched history image) :=
  have reaches := reaches_sampleTrial Outpost.Rests rests_sample
  ⟨reaches, fallback_kept Outpost.Rests (fun _ rests => rests) Setup.sampleDevice Setup.sampleFiles
    ["banks"] _ Setup.stands_sample [1, 2, 3] rfl rfl _ reaches⟩

/-- Where updates are admitted at any time, one of them erases the image to fall back on while the
other is on trial, and the bootloader falls back on what is left of it. -/
theorem fallback_lost :
    Setup.sampleDevice.banks.Stands ["banks"] ⟨some [1, 2, 3], none, none, .settled⟩
        Setup.sampleFiles ∧
      Reaches (fun _ => True) (.start Setup.sampleDevice Setup.sampleFiles)
        ⟨.off, sampleErased⟩ ∧
      sampleErased.boots .revert = true ∧
      sampleErased.onward.files.read (Setup.sampleDevice.banks.bankPath .primary) = .ok [] ∧
      [] ≠ ([1, 2, 3] : Bytes) ∧
      ∀ history ∈ sampleErased.history :: sampleErased.past,
        ¬ Installation.Fetched history [] := by
  have boots : sampleTrial.boots .testSwap = true := by decide +kernel
  have ends : (sampleTrial.onward.proceed Resolution.run fun _ => false).1.isDone = true := by
    decide +kernel
  have trial := reaches_sampleTrial (fun _ => True) trivial
  refine ⟨Setup.stands_sample, reaches_updated trial boots ends trivial _, ?_, ?_, ?_, ?_⟩
  · decide +kernel
  · decide +kernel
  · decide
  · rintro history _ ⟨_, _, _, _, _, _, _, whole⟩
    obtain ⟨_, _, _, _, filled, _⟩ := whole
    exact filled rfl

end DualBank
