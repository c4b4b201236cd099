import DualBank.SystemError

/-! Failures of what surrounds an update, as they are reported to a reader of the log. -/

namespace DualBank

inductive Failure where
  /-- The system refused; what was being done may be known. -/
  | system (context : Option String) (cause : SystemError)
  | undecodable (key : String)
  | other (message : String)
deriving DecidableEq

namespace Failure

def headline : Failure → String
  | .system (some context) _ => context
  | .system none cause => cause.message
  | .undecodable key => "decoding " ++ key
  | .other message => message

def cause? : Failure → Option String
  | .system (some _) cause => some cause.message
  | .undecodable _ => some "malformed value"
  | .system none _ | .other _ => none

def report (failure : Failure) : String :=
  match failure.cause? with
  | none => failure.headline
  | some cause => failure.headline ++ "\n\nCaused by:\n    " ++ cause

end Failure

end DualBank
