import DualBank.Proofs.Headers
import DualBank.Proofs.Interruption

/-! An image on probation. Once its trial is asked for, the next pass of the bootloader starts it,
if it is an image, and the pass after that undoes the trial unless it was confirmed before. From
then on the banks stay as they are. -/

namespace DualBank

open Program FileTree

namespace Holdings

variable {old image : Bytes} {scratch : Option Bytes} {confirmed : Bool}

theorem action_headed (headed : Image.IsHeaded image) :
    action ⟨some old, some image, scratch, ⟨true, confirmed⟩⟩ = .testSwap := by
  have parsed : Image.Header.parse? (image.take Image.Header.size) ≠ none := by
    rw [Ne, Image.parse?_eq_none_iff, not_not, Image.isHeaded_take]
    exact headed
  obtain ⟨header, parsed⟩ := Option.ne_none_iff_exists'.1 parsed
  simp [action, headerOf, parsed]

theorem action_unheaded (unheaded : ¬ Image.IsHeaded image) :
    action ⟨some old, some image, scratch, ⟨true, confirmed⟩⟩ = .rejected := by
  have parsed : Image.Header.parse? (image.take Image.Header.size) = none := by
    rw [Image.parse?_eq_none_iff, Image.isHeaded_take]
    exact unheaded
  simp [action, headerOf, parsed]

end Holdings

namespace BankDirectory

structure Hold (banks : BankDirectory) (running other : Bytes) (trailer : SwapTrailer)
    (files : FileTree) : Prop where
  running : files.read (banks.bankPath .primary) = .ok running
  other : files.read (banks.bankPath .secondary) = .ok other
  trailer : files.Yields banks.loadTrailer fun found _ => found = trailer

inductive Asks (banks : BankDirectory) : FileTree → FileTree → Prop
  | readHeader {bank : Bank} {result : Except FlashError Image.Header} {machine later : Machine} :
      machine.run (banks.readHeader bank) = (.finished result, later) →
      Asks banks machine.files later.files
  | swapType {type : SwapType} {machine later : Machine} :
      machine.run banks.swapType = (.finished type, later) → Asks banks machine.files later.files
  | isConfirmed {confirmed : Bool} {machine later : Machine} :
      machine.run banks.isConfirmed = (.finished confirmed, later) →
      Asks banks machine.files later.files

inductive Tends (banks : BankDirectory) : FileTree → FileTree → Prop
  | ask {files later : FileTree} : banks.Asks files later → Tends banks files later
  | confirm {result : Except FlashError Unit} {machine later : Machine} :
      machine.run banks.confirm = (.finished result, later) → Tends banks machine.files later.files
  | boot {result : Except Failure BootAction} {machine later : Machine} :
      machine.run banks.boot = (.finished result, later) → Tends banks machine.files later.files

def Asked (banks : BankDirectory) : FileTree → FileTree → Prop :=
  Relation.ReflTransGen banks.Asks

def Tended (banks : BankDirectory) : FileTree → FileTree → Prop :=
  Relation.ReflTransGen banks.Tends

/-- The banks hold these, and every pass from now on boots what runs and leaves them alone. -/
def Rests (banks : BankDirectory) (running other : Bytes) (files : FileTree) : Prop :=
  banks.Hold running other .settled files ∧
    ∀ later, banks.Tended files later → later.Yields banks.boot fun result after =>
      result = .ok .normal ∧ banks.Hold running other .settled after

variable {banks : BankDirectory} {home : Location} {holdings : Holdings} {files later : FileTree}
  {running other : Bytes} {scratch : Option Bytes} {trailer : SwapTrailer}

theorem hold_of_stands
    (stands : banks.Stands home ⟨some running, some other, scratch, trailer⟩ files) :
    banks.Hold running other trailer files where
  running := (read_bank_iff stands .primary running).2 rfl
  other := (read_bank_iff stands .secondary other).2 rfl
  trailer := yields_mono (loadTrailer_yields stands) fun _ _ found => found.1

theorem same_of_asks (asks : banks.Asks files later) (stands : banks.Stands home holdings files) :
    later = files := by
  cases asks with
  | @readHeader bank _ _ _ ran => exact ((readHeader_yields stands bank).of_run rfl ran).2
  | swapType ran => exact ((swapType_yields stands).of_run rfl ran).2
  | isConfirmed ran => exact ((isConfirmed_yields stands).of_run rfl ran).2

theorem same_of_asked (asked : banks.Asked files later)
    (stands : banks.Stands home holdings files) : later = files := by
  induction asked with
  | refl => rfl
  | tail _ asks ih =>
      subst ih
      exact same_of_asks asks stands

theorem boot_settled
    (stands : banks.Stands home ⟨some running, some other, scratch, .settled⟩ files) :
    files.Yields banks.boot fun result after => result = .ok .normal ∧
      banks.Stands home ⟨some running, some other, scratch, .settled⟩ after :=
  boot_yields stands fun impossible => by contradiction

theorem stands_of_tends (tends : banks.Tends files later)
    (stands : banks.Stands home ⟨some running, some other, scratch, .settled⟩ files) :
    banks.Stands home ⟨some running, some other, scratch, .settled⟩ later := by
  cases tends with
  | ask asks => rwa [same_of_asks asks stands]
  | confirm ran => exact ((confirm_yields stands).of_run rfl ran).2
  | boot ran => exact ((boot_settled stands).of_run rfl ran).2

theorem stands_of_tended (tended : banks.Tended files later)
    (stands : banks.Stands home ⟨some running, some other, scratch, .settled⟩ files) :
    banks.Stands home ⟨some running, some other, scratch, .settled⟩ later := by
  induction tended with
  | refl => exact stands
  | tail _ tends ih => exact stands_of_tends tends ih

theorem rests_of_stands
    (stands : banks.Stands home ⟨some running, some other, scratch, .settled⟩ files) :
    banks.Rests running other files := by
  refine ⟨hold_of_stands stands, fun later tended => ?_⟩
  refine yields_mono (boot_settled (stands_of_tended tended stands)) ?_
  rintro result after ⟨rfl, stands⟩
  exact ⟨rfl, hold_of_stands stands⟩

/-- With the old image behind it, a trial is undone by the next pass, or confirmed for good. -/
theorem trial_ends
    (stands : banks.Stands home ⟨some running, some other, scratch, .onTrial⟩ files) :
    (files.Yields banks.boot fun result restored =>
      result = .ok .revert ∧ banks.Rests other running restored) ∧
    files.Yields banks.confirm fun result kept =>
      result = .ok () ∧ banks.Rests running other kept := by
  constructor
  · refine yields_mono (boot_yields stands fun _ => by simp) ?_
    rintro result restored ⟨rfl, stands⟩
    exact ⟨rfl, rests_of_stands stands⟩
  · refine yields_mono (confirm_yields stands) ?_
    rintro result kept ⟨rfl, stands⟩
    exact ⟨rfl, rests_of_stands stands⟩

theorem trailer_booted (stands : banks.Stands home holdings files) :
    files.Yields banks.boot fun result after => ∀ action, result = .ok action →
      after.Yields banks.loadTrailer fun trailer _ =>
        trailer.testPending = false ∧ (trailer.confirmed = false ↔ action = .testSwap) := by
  refine yields_mono (boot_yields_ok stands) ?_
  intro result after booted action done
  obtain ⟨rfl, stands⟩ := booted action done
  refine yields_mono (loadTrailer_yields stands) ?_
  rintro trailer _ ⟨rfl, _⟩
  rw [Holdings.booted]
  cases holdings.action <;> simp [BootAction.trailer, SwapTrailer.onTrial, SwapTrailer.settled]

end BankDirectory

/-- A trial that is asked for on settled banks: it is refused for good if there is no image; else it
starts, and then it is undone by the next pass, or kept if it is confirmed before. In the end the
banks rest. And after every pass a trial is on just if the pass started one. -/
theorem trial_undone_or_kept (banks : BankDirectory) (home : Location) (old image : Bytes)
    (scratch : Option Bytes) (files : FileTree)
    (stands : banks.Stands home ⟨some old, some image, scratch, .settled⟩ files) :
    (files.Yields banks.requestTest fun requested asked => requested = .ok () ∧
      ∀ waiting, banks.Asked asked waiting →
        (Image.IsHeaded image → waiting.Yields banks.boot fun result started =>
          result = .ok .testSwap ∧ banks.Hold image old .onTrial started ∧
          ∀ trial, banks.Asked started trial →
            (trial.Yields banks.boot fun result restored =>
              result = .ok .revert ∧ banks.Rests old image restored) ∧
            trial.Yields banks.confirm fun result kept =>
              result = .ok () ∧ banks.Rests image old kept) ∧
        (¬ Image.IsHeaded image → waiting.Yields banks.boot fun result refused =>
          result = .ok .rejected ∧ banks.Rests old image refused)) ∧
    ∀ holdings found, banks.Stands home holdings found →
      found.Yields banks.boot fun result after => ∀ action, result = .ok action →
        after.Yields banks.loadTrailer fun trailer _ =>
          trailer.testPending = false ∧ (trailer.confirmed = false ↔ action = .testSwap) := by
  refine ⟨?_, fun holdings found stands => BankDirectory.trailer_booted stands⟩
  refine yields_mono (BankDirectory.requestTest_yields stands) ?_
  rintro requested asked ⟨rfl, stands⟩
  refine ⟨rfl, fun waiting questions => ?_⟩
  rw [BankDirectory.same_of_asked questions stands]
  have booted := BankDirectory.boot_yields stands (fun _ => by simp)
  constructor
  · intro headed
    rw [Holdings.booted, Holdings.action_headed headed] at booted
    refine yields_mono booted ?_
    rintro result started ⟨rfl, stands⟩
    refine ⟨rfl, BankDirectory.hold_of_stands stands, fun trial questions => ?_⟩
    rw [BankDirectory.same_of_asked questions stands]
    exact BankDirectory.trial_ends stands
  · intro unheaded
    rw [Holdings.booted, Holdings.action_unheaded unheaded] at booted
    refine yields_mono booted ?_
    rintro result refused ⟨rfl, stands⟩
    exact ⟨rfl, BankDirectory.rests_of_stands stands⟩

open Setup

theorem Setup.stands_sampleStaged :
    sampleDevice.banks.Stands ["banks"]
      ⟨some [1, 2, 3], some Outpost.sampleImage, none, .settled⟩ sampleStaged :=
  BankDirectory.stands_write stands_sample .secondary Outpost.sampleImage

theorem trial_undone_or_kept_sample :
    sampleDevice.banks.Stands ["banks"]
        ⟨some [1, 2, 3], some Outpost.sampleImage, none, .settled⟩ sampleStaged ∧
      Image.IsHeaded Outpost.sampleImage ∧
      sampleStaged.Yields sampleDevice.banks.requestTest fun requested asked =>
        requested = .ok () ∧ asked.Yields sampleDevice.banks.boot fun result started =>
          result = .ok .testSwap ∧
          sampleDevice.banks.Hold Outpost.sampleImage [1, 2, 3] .onTrial started ∧
          (started.Yields sampleDevice.banks.boot fun result restored =>
            result = .ok .revert ∧
              sampleDevice.banks.Rests [1, 2, 3] Outpost.sampleImage restored) ∧
          started.Yields sampleDevice.banks.confirm fun result kept =>
            result = .ok () ∧ sampleDevice.banks.Rests Outpost.sampleImage [1, 2, 3] kept := by
  have headed : Image.IsHeaded Outpost.sampleImage := ⟨by decide, by decide⟩
  have course := (trial_undone_or_kept sampleDevice.banks ["banks"] [1, 2, 3] Outpost.sampleImage
    none sampleStaged stands_sampleStaged).1
  refine ⟨stands_sampleStaged, headed, yields_mono course ?_⟩
  rintro requested asked ⟨done, onward⟩
  refine ⟨done, yields_mono ((onward asked .refl).1 headed) ?_⟩
  rintro result started ⟨action, hold, ends⟩
  exact ⟨action, hold, ends started .refl⟩

end DualBank
