import DualBank.Bytes

/-! JSON values as they are written: members keep their order, and a name may occur twice. -/

namespace DualBank.Json

/-- A string is `none` when what is written spells no text, as a lone half of a surrogate pair
does: it is still well written, and only its use fails. A number that is not written as an integer
keeps its literal. -/
inductive Value where
  | null
  | boolean (value : Bool)
  | integer (value : Int)
  | real (literal : Bytes)
  | string (text : Option String)
  | array (items : List Value)
  | object (members : List (Option String × Value))

namespace Value

def text (value : String) : Value :=
  .string (some value)

def ofMembers (members : List (String × Value)) : Value :=
  .object (members.map fun (name, value) => (some name, value))

end Value

end DualBank.Json
