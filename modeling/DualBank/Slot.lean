/-! The slot that lets one installation in at a time. -/

namespace DualBank

/-- While an installation that was told to stop still tidies up, the slot is `canceling`: nothing
new is let in, and the installation sees at its next look that it has to end. -/
inductive Slot where
  | idle
  | running
  | canceling
deriving DecidableEq

namespace Slot

inductive Operation where
  | start
  | cancel
  | isRunning
  | isBusy
  | finish
deriving DecidableEq

def isRunning (slot : Slot) : Bool :=
  slot = .running

def isBusy (slot : Slot) : Bool :=
  slot ≠ .idle

def apply : Operation → Slot → Bool × Slot
  | .start, .idle => (true, .running)
  | .start, slot => (false, slot)
  | .cancel, .running => (true, .canceling)
  | .cancel, slot => (false, slot)
  | .isRunning, slot => (slot.isRunning, slot)
  | .isBusy, slot => (slot.isBusy, slot)
  | .finish, _ => (true, .idle)

end Slot

end DualBank
