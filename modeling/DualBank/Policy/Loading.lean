import DualBank.Agent
import DualBank.Stored

/-! Reading the policy that is kept in settings. -/

namespace DualBank.Policy

def space : String := "ota_cfg"

def key : String := "config"

def keepStandard : Agent Unit := do
  match ← Agent.device (.save space key standard.toJson.encode) with
  | .ok () => Agent.log .info "config" "OTA configuration saved"
  | .error failure =>
      Agent.log .warn "config" ("Failed to save default OTA configuration: " ++ failure.report)

def loadOrStandard : Agent Policy := do
  match (← Agent.device (.load space key)).bind (Stored.decode ofJson? space key) with
  | .ok (some policy) =>
      match policy.check with
      | .ok () => do
          Agent.log .info "config" "Loaded OTA configuration from settings"
          pure policy
      | .error fault => do
          Agent.log .warn "config"
            ("Stored OTA configuration rejected: " ++ fault ++ ", using defaults")
          pure standard
  | .ok none => do
      Agent.log .info "config" "No OTA configuration stored, using defaults"
      keepStandard
      pure standard
  | .error failure => do
      Agent.log .warn "config"
        ("Failed to load OTA configuration: " ++ failure.report ++ ", using defaults")
      keepStandard
      pure standard

end DualBank.Policy
