import DualBank.BankWriter
import DualBank.Image
import DualBank.SettingsDirectory
import DualBank.SwapTrailer

/-! Banks in files, and the part of the bootloader that works on them. What the bootloader has to
remember lies in a trailer beside the banks. -/

namespace DualBank

structure BankDirectory where
  root : Path

namespace BankDirectory

def bankPath (banks : BankDirectory) : Bank → Path
  | .primary => banks.root.below "primary.bin"
  | .secondary => banks.root.below "secondary.bin"

def scratchPath (banks : BankDirectory) : Path :=
  banks.root.below "scratch.bin"

def settings (banks : BankDirectory) : SettingsDirectory :=
  ⟨banks.root⟩

def trailerSpace : String := "boot"

def trailerKey : String := "swap"

def loadTrailer (banks : BankDirectory) : Host SwapTrailer := do
  match ← banks.settings.loadJson SwapTrailer.ofJson? trailerSpace trailerKey with
  | .ok (some trailer) => pure trailer
  | .ok none => pure .settled
  | .error failure => do
      Host.log .warn "bootloader"
        ("Corrupt swap trailer, assuming confirmed image: " ++ failure.report)
      pure .settled

def storeTrailer (banks : BankDirectory) (trailer : SwapTrailer) :
    Host (Except FlashError Unit) := do
  match ← banks.settings.saveJson trailerSpace trailerKey trailer.toJson with
  | .ok () => pure (.ok ())
  | .error failure => do
      Host.log .error "bootloader" ("Unable to write swap trailer: " ++ failure.report)
      pure (.error .inputOutput)

def readHeader (banks : BankDirectory) (bank : Bank) : Host (Except FlashError Image.Header) := do
  match ← Host.request (.readFirst (banks.bankPath bank) Image.Header.size) with
  | .error error => pure (.error (.ofSystem error))
  | .ok raw =>
      match Image.Header.parse? raw with
      | some header => pure (.ok header)
      | none => pure (.error .invalid)

def renameAll : List (Path × Path) → Host (Except SystemError Unit)
  | [] => pure (.ok ())
  | (source, target) :: rest => do
      match ← Host.request (.rename source target) with
      | .error error => pure (.error error)
      | .ok () => renameAll rest

-- Exchanges the banks by way of a third file. A primary bank that is missing counts as empty.
def swapBanks (banks : BankDirectory) : Host (Except SystemError Unit) := do
  let ready ←
    if ← Host.request (.isThere (banks.bankPath .primary)) then pure (.ok ())
    else Host.request (.create (banks.bankPath .primary))
  match ready with
  | .error error => pure (.error error)
  | .ok () =>
      renameAll [(banks.bankPath .primary, banks.scratchPath),
        (banks.bankPath .secondary, banks.bankPath .primary),
        (banks.scratchPath, banks.bankPath .secondary)]

def decide (banks : BankDirectory) (trailer : SwapTrailer) : Host BootAction := do
  if trailer.testPending then
    match ← banks.readHeader .secondary with
    | .ok _ => pure .testSwap
    | .error _ => pure .rejected
  else if trailer.confirmed then pure .normal
  else pure .revert

def swapFor (banks : BankDirectory) : BootAction → Host (Except SystemError Unit)
  | .testSwap | .revert => banks.swapBanks
  | .normal | .rejected => pure (.ok ())

/-- The pass of the bootloader when power comes on. The trailer is stored last. -/
def boot (banks : BankDirectory) : Host (Except Failure BootAction) := do
  match ← Host.makeDirectories banks.root with
  | .error error =>
      pure (.error (.system (some ("creating bank dir " ++ banks.root.text)) error))
  | .ok () => do
      let action ← banks.decide (← banks.loadTrailer)
      match ← banks.swapFor action with
      | .error error => pure (.error (.system none error))
      | .ok () =>
          match ← banks.storeTrailer action.trailer with
          | .error error => pure (.error (.other error.message))
          | .ok () => do
              Host.log .info "bootloader" ("Boot: " ++ action.label)
              pure (.ok action)

def erase (banks : BankDirectory) (bank : Bank) : Host (Except FlashError Unit) := do
  match ← Host.makeDirectories banks.root with
  | .error error => pure (.error (.ofSystem error))
  | .ok () =>
      match ← Host.request (.create (banks.bankPath bank)) with
      | .error error => pure (.error (.ofSystem error))
      | .ok () => do
          let synced ← Host.request (.sync (banks.bankPath bank))
          pure (synced.mapError .ofSystem)

def swapType (banks : BankDirectory) : Host SwapType := do
  let trailer ← banks.loadTrailer
  pure (if trailer.testPending then .test else .none)

def isConfirmed (banks : BankDirectory) : Host Bool := do
  let trailer ← banks.loadTrailer
  pure trailer.confirmed

def confirm (banks : BankDirectory) : Host (Except FlashError Unit) := do
  let trailer ← banks.loadTrailer
  banks.storeTrailer { trailer with confirmed := true }

def requestTest (banks : BankDirectory) : Host (Except FlashError Unit) := do
  let trailer ← banks.loadTrailer
  banks.storeTrailer { trailer with testPending := true }

def openWriter (banks : BankDirectory) (bank : Bank) : Host (Except FlashError BankWriter) := do
  match ← Host.request (.openForAppend (banks.bankPath bank)) with
  | .error error => pure (.error (.ofSystem error))
  | .ok () => pure (.ok ⟨banks.bankPath bank, [], 0⟩)

end BankDirectory

end DualBank
