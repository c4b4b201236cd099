import DualBank.Proofs.Life

/-! The power goes in the middle of a pass of the bootloader, and comes back. Between the first
rename of an exchange and the last, one of the images is in neither bank, and the next pass does not
look for it where it is. -/

namespace DualBank

open Program FileTree

def BankDirectory.Both (banks : BankDirectory) (one other : Bytes) (files : FileTree) : Prop :=
  files.read (banks.bankPath .primary) = .ok one ∧
      files.read (banks.bankPath .secondary) = .ok other ∨
    files.read (banks.bankPath .primary) = .ok other ∧
      files.read (banks.bankPath .secondary) = .ok one

namespace Holdings

/-- Each of two images is in a bank of its own, if a primary bank that is missing counts as
empty. -/
def Keeps (one other : Bytes) (holdings : Holdings) : Prop :=
  holdings.primary.getD [] = one ∧ holdings.secondary = some other ∨
    holdings.primary.getD [] = other ∧ holdings.secondary = some one

/-- What the next pass can find, when a pass was interrupted that found these two images. -/
structure Suspended (old image : Bytes) (holdings : Holdings) : Prop where
  kept : holdings.Keeps old image ∨ holdings.scratch = some old
  ready : holdings.primary = none → holdings.action.Swaps

variable {old image : Bytes} {holdings : Holdings}

theorem suspended_of_keeps (keeps : holdings.Keeps old image) (there : holdings.primary ≠ none) :
    holdings.Suspended old image :=
  ⟨.inl keeps, fun missing => absurd missing there⟩

/-- The old image is in neither bank before the second rename, and before the third. -/
theorem suspended_passing {scratch : Option Bytes} {trailer : SwapTrailer} :
    ∀ found ∈ passing ⟨some old, some image, scratch, trailer⟩, found.Suspended old image := by
  have before (scratch : Option Bytes) (trailer : SwapTrailer) :
      Suspended old image ⟨some old, some image, scratch, trailer⟩ :=
    suspended_of_keeps (.inl ⟨rfl, rfl⟩) (by simp)
  have exchanged (trailer : SwapTrailer) :
      Suspended old image ⟨some image, some old, none, trailer⟩ :=
    suspended_of_keeps (.inr ⟨rfl, rfl⟩) (by simp)
  have acted (action : BootAction) (last : SwapTrailer) : Suspended old image
      { after ⟨some old, some image, scratch, trailer⟩ action with trailer := last } := by
    cases action with
    | testSwap | revert => exact exchanged last
    | normal | rejected => exact before scratch last
  refine passing_iff.2 ⟨before scratch trailer, ?_, acted _ _, fun swaps => ?_⟩
  · cases same : action ⟨some old, some image, scratch, trailer⟩ with
    | testSwap | revert => exact exchanged trailer
    | normal | rejected => exact before scratch trailer
  · simp only [exchanging, Option.getD_some, List.forall_mem_cons]
    refine ⟨before scratch trailer, ?_, ?_, exchanged trailer, by simp⟩
    · exact ⟨.inr rfl, fun _ => swaps⟩
    · exact ⟨.inr rfl, by simp⟩

theorem booted_both_iff (ready : holdings.primary = none → holdings.action.Swaps) :
    (holdings.booted.primary = some old ∧ holdings.booted.secondary = some image ∨
      holdings.booted.primary = some image ∧ holdings.booted.secondary = some old) ↔
        holdings.Keeps old image := by
  have present (still : ¬ holdings.action.Swaps) : holdings.primary ≠ none :=
    fun missing => still (ready missing)
  simp only [booted, Keeps]
  cases acts : holdings.action with
  | testSwap | revert =>
      simp only [after, Option.some.injEq]
      tauto
  | normal | rejected =>
      have idle : ¬ holdings.action.Swaps := by
        rw [acts]
        decide
      obtain ⟨content, there⟩ := Option.ne_none_iff_exists'.1 (present idle)
      simp [after, there]

end Holdings

namespace BankDirectory

variable {banks : BankDirectory} {home : Location} {holdings : Holdings} {tree : FileTree}
  {old image : Bytes}

theorem both_iff (stands : banks.Stands home holdings tree) :
    banks.Both old image tree ↔
      holdings.primary = some old ∧ holdings.secondary = some image ∨
        holdings.primary = some image ∧ holdings.secondary = some old := by
  simp only [Both, read_bank_iff stands]
  rfl

/-- A pass that finds at most the primary bank missing, and exchanges the banks then, leaves both
images in them if and only if it found both there. -/
theorem restored_iff (stands : banks.Stands home holdings tree)
    (suspended : holdings.Suspended old image) :
    (tree.Yields banks.boot fun result after =>
      (∃ action, result = .ok action) ∧ banks.Both old image after) ↔
        holdings.Keeps old image := by
  rw [← Holdings.booted_both_iff suspended.ready]
  constructor
  · intro restored
    obtain ⟨result, later, ran, ⟨action, rfl⟩, both⟩ := restored (.holding tree) rfl
    obtain ⟨_, booted⟩ := (boot_yields_ok stands).of_run rfl ran action rfl
    exact (both_iff booted).1 both
  · intro both
    have staged : holdings.secondary ≠ none := by
      rcases (Holdings.booted_both_iff suspended.ready).1 both with ⟨_, there⟩ | ⟨_, there⟩ <;>
        simp [there]
    refine yields_mono (boot_yields stands fun _ => staged) ?_
    rintro result after ⟨rfl, booted⟩
    exact ⟨⟨_, rfl⟩, (both_iff booted).2 both⟩

end BankDirectory

/-- A pass of the bootloader that is interrupted anywhere is made up for by the next, with both
images in their banks, if and only if both were left there; and otherwise the old image is in the
file that the banks are exchanged by way of. -/
theorem interrupted_pass_restored_iff (banks : BankDirectory) (home : Location)
    (old image : Bytes) (scratch : Option Bytes) (trailer : SwapTrailer) (machine : Machine)
    (stands : banks.Stands home ⟨some old, some image, scratch, trailer⟩ machine.files)
    (count : Nat) :
    ∃ found ∈ Holdings.passing ⟨some old, some image, scratch, trailer⟩,
      banks.Stands home found (machine.runFor count banks.boot).files ∧
      (found.Keeps old image ∨ found.scratch = some old) ∧
      (((machine.runFor count banks.boot).files.Yields banks.boot fun result after =>
        (∃ action, result = .ok action) ∧ banks.Both old image after) ↔
          found.Keeps old image) := by
  obtain ⟨found, passing, left⟩ := (BankDirectory.boot_endures
    (· ∈ Holdings.passing ⟨some old, some image, scratch, trailer⟩) stands (by simp)
    (fun _ inside => inside) machine rfl).1 count
  have suspended := Holdings.suspended_passing found passing
  exact ⟨found, passing, left, suspended.kept, BankDirectory.restored_iff left suspended⟩

namespace Setup

def sampleStaged : FileTree :=
  sampleFiles.insert ["banks", "secondary.bin"] (.file Outpost.sampleImage)

def sampleAsked : Machine :=
  ((Machine.holding sampleStaged).run (sampleDevice.banks.storeTrailer ⟨true, true⟩)).2

theorem stands_sampleAsked :
    sampleDevice.banks.Stands ["banks"]
      ⟨some [1, 2, 3], some Outpost.sampleImage, none, ⟨true, true⟩⟩ sampleAsked.files := by
  have staged := BankDirectory.stands_write stands_sample .secondary Outpost.sampleImage
  obtain ⟨result, later, ran, _, stands⟩ :=
    BankDirectory.storeTrailer_yields staged ⟨true, true⟩ (.holding sampleStaged) rfl
  rw [sampleAsked, ran]
  exact stands

def sampleSevered : Outpost :=
  ⟨sampleDevice, (sampleAsked.runFor 6 sampleDevice.banks.boot).files, [], []⟩

end Setup

open Setup

theorem interrupted_pass_restored_iff_sample :
    ∃ found ∈ Holdings.passing
        ⟨some [1, 2, 3], some Outpost.sampleImage, none, ⟨true, true⟩⟩,
      sampleDevice.banks.Stands ["banks"] found sampleSevered.files ∧
      (found.Keeps [1, 2, 3] Outpost.sampleImage ∨ found.scratch = some [1, 2, 3]) ∧
      ((sampleSevered.files.Yields sampleDevice.banks.boot fun result after =>
        (∃ action, result = .ok action) ∧
          sampleDevice.banks.Both [1, 2, 3] Outpost.sampleImage after) ↔
        found.Keeps [1, 2, 3] Outpost.sampleImage) :=
  interrupted_pass_restored_iff sampleDevice.banks ["banks"] [1, 2, 3] Outpost.sampleImage none
    ⟨true, true⟩ sampleAsked stands_sampleAsked 6

/-- The pass that follows puts an empty file in the place of the old image. -/
theorem interrupted_pass_loses_image :
    sampleDevice.banks.Stands ["banks"]
        ⟨some [1, 2, 3], some Outpost.sampleImage, none, ⟨true, true⟩⟩ sampleAsked.files ∧
      sampleSevered.files = (sampleAsked.runFor 6 sampleDevice.banks.boot).files ∧
      sampleSevered.boots .testSwap = true ∧
      sampleSevered.onward.files.read (sampleDevice.banks.bankPath .primary) =
        .ok Outpost.sampleImage ∧
      sampleSevered.onward.files.read (sampleDevice.banks.bankPath .secondary) = .ok [] ∧
      ¬ sampleDevice.banks.Both [1, 2, 3] Outpost.sampleImage sampleSevered.onward.files := by
  have primary : sampleSevered.onward.files.read (sampleDevice.banks.bankPath .primary) =
      .ok Outpost.sampleImage := by decide +kernel
  have secondary : sampleSevered.onward.files.read (sampleDevice.banks.bankPath .secondary) =
      .ok [] := by decide +kernel
  refine ⟨stands_sampleAsked, rfl, by decide +kernel, primary, secondary, ?_⟩
  rw [BankDirectory.Both, primary, secondary]
  decide +kernel

end DualBank
