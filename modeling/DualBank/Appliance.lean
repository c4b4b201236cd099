import DualBank.CommandLine
import DualBank.Machine

/-! A device on the files of a machine, from one start to the next. What is on files stays when the
power goes; the process does not. -/

namespace DualBank

structure Powered where
  policy : Policy
  session : Session
  device : FileDevice

-- A restart is only counted: the process goes on, as it may for a while on a real device.
structure Appliance where
  machine : Machine
  power : Option Powered
  restarts : Nat

namespace Appliance

def counting : (call : Device.Call) → FileDevice × Nat → Host (Device.Reply call × FileDevice × Nat)
  | .restart, (device, restarts) => pure ((), device, restarts + 1)
  | call, (device, restarts) => do
      let (reply, device) ← FileDevice.answer call device
      pure (reply, device, restarts)

def storedPolicy (device : FileDevice) : Host Policy := do
  let (policy, _) ← CommandLine.onDevice Policy.loadOrStandard device
  pure { policy with backoff := 0, restartGrace := 0 }

def powerOn (appliance : Appliance) (device : FileDevice) (policy : Host Policy) :
    Option (Except Failure BootAction) × Appliance :=
  let program : Host (Except Failure (BootAction × Policy)) := do
    match ← device.banks.boot with
    | .error failure => pure (.error failure)
    | .ok action => do
        let policy ← policy
        pure (.ok (action, policy))
  match Machine.run program appliance.machine with
  | (.finished (.ok (action, policy)), machine) =>
      (some (.ok action),
        { appliance with machine := machine, power := some ⟨policy, .fresh, device⟩ })
  | (.finished (.error failure), machine) =>
      (some (.error failure), { appliance with machine := machine, power := none })
  | (.exited _, machine) => (none, { appliance with machine := machine, power := none })

def call {α : Type} (appliance : Appliance) (program : Policy → Agent α) : Option α × Appliance :=
  match appliance.power with
  | none => (none, appliance)
  | some power =>
      match Machine.run (Session.run counting (program power.policy) power.session
          (power.device, appliance.restarts)) appliance.machine with
      | (.finished (value, session, device, restarts), machine) =>
          (some value, ⟨machine, some ⟨power.policy, session, device⟩, restarts⟩)
      | (.exited _, machine) => (none, { appliance with machine := machine, power := none })

end Appliance

end DualBank
