import DualBank.Json.Fields
import DualBank.Json.Reader
import DualBank.RequestId
import DualBank.UpdateError

/-! Requests to update, and the commands of the management channel that carry them. -/

namespace DualBank

structure Request where
  uuid : String
  url : String
deriving DecidableEq

namespace Request

def check (request : Request) : Except UpdateError Unit :=
  if request.uuid = "" then .error (.invalidRequest "missing request uuid")
  else if request.url = "" then .error (.invalidRequest "missing download url")
  else if !isCanonical request.uuid then .error (.invalidRequest "malformed request uuid")
  else .ok ()

theorem isCanonical_of_check {request : Request} (valid : request.check = .ok ()) :
    isCanonical request.uuid = true := by
  unfold check at valid
  split at valid
  · contradiction
  · split at valid
    · contradiction
    · split at valid
      · contradiction
      · rename_i canonical
        simpa using canonical

end Request

inductive Operation where
  | update
  | cancel
deriving DecidableEq

namespace Operation

def ofText? (text : String) : Option Operation :=
  if text = "Update" then some .update
  else if text = "Cancel" then some .cancel
  else none

end Operation

structure Command where
  uuid : Option String
  url : Option String
  operation : Option String
deriving DecidableEq

open Json (Value) in
def Command.ofJson? (value : Value) : Option Command := do
  let field ← value.fields? ["uuid", "url", "operation"] false
  return {
    uuid := ← Value.optional? Value.text? (field "uuid")
    url := ← Value.optional? Value.text? (field "url")
    operation := ← Value.optional? Value.text? (field "operation") }

end DualBank
