import DualBank.Json.Basic

/-! Taking typed values out of JSON. -/

namespace DualBank.Json.Value

/-- The fields of a record, from an object or from an array that lists them in order. An object may
hold further members, but no field twice. An array lists every field, unless fields may be left
out: then it may stop early. -/
def fields? (names : List String) (mayOmit : Bool) : Value → Option (String → Option Value)
  | .object members =>
      if members.all (·.1.isSome) &&
          names.all fun name => (members.filter (·.1 = some name)).length ≤ 1 then
        some fun name => (members.find? (·.1 = some name)).map (·.2)
      else none
  | .array items =>
      if items.length = names.length || (mayOmit && items.length < names.length) then
        some fun name => (names.idxOf? name).bind (items[·]?)
      else none
  | _ => none

def text? : Value → Option String
  | .string text => text
  | _ => none

def boolean? : Value → Option Bool
  | .boolean value => some value
  | _ => none

def integer? (lowest highest : Int) : Value → Option Int
  | .integer value => if lowest ≤ value && value ≤ highest then some value else none
  | _ => none

def uint8? (value : Value) : Option UInt8 :=
  (value.integer? 0 (UInt8.size - 1)).map fun number => UInt8.ofNat number.toNat

def uint64? (value : Value) : Option UInt64 :=
  (value.integer? 0 (UInt64.size - 1)).map fun number => UInt64.ofNat number.toNat

def int32? (value : Value) : Option Int32 :=
  (value.integer? Int32.minValue.toInt Int32.maxValue.toInt).map Int32.ofInt

def int64? (value : Value) : Option Int64 :=
  (value.integer? Int64.minValue.toInt Int64.maxValue.toInt).map Int64.ofInt

def optional? {α : Type} (read : Value → Option α) : Option Value → Option (Option α)
  | none | some .null => some none
  | some value => (read value).map some

def orElse? {α : Type} (read : Value → Option α) (fallback : α) : Option Value → Option α
  | none => some fallback
  | some value => read value

def list? {α : Type} (read : Value → Option α) : Value → Option (List α)
  | .array items => items.mapM read
  | _ => none

def textPair? : Value → Option (String × String)
  | .array [first, second] => return (← first.text?, ← second.text?)
  | _ => none

end DualBank.Json.Value
