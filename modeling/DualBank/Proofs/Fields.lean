import DualBank.Event
import DualBank.Policy
import DualBank.SwapTrailer
import DualBank.Stored
import DualBank.Proofs.Rereading

/-! The records that are written as JSON, and what is read back of them. Each way of taking a value
out of JSON is told by the one way of writing such a value that it accepts. -/

namespace DualBank

namespace Json.Value

variable {α : Type} {read : Value → Option α} {write : α → Value}

def Inverts (read : Value → Option α) (write : α → Value) : Prop :=
  ∀ value item, read value = some item ↔ value = write item

theorem read_write (inverts : Inverts read write) (item : α) : read (write item) = some item :=
  (inverts _ _).2 rfl

theorem inverts_text : Inverts text? text := by
  intro value item
  cases value <;> simp [text?, text]

theorem inverts_boolean : Inverts boolean? boolean := by
  intro value item
  cases value <;> simp [boolean?]

theorem integer?_eq_some_iff {lowest highest number : Int} {value : Value} :
    value.integer? lowest highest = some number ↔
      value = .integer number ∧ lowest ≤ number ∧ number ≤ highest := by
  cases value with
  | integer other =>
      simp only [integer?, Bool.and_eq_true, decide_eq_true_eq, Option.ite_none_right_eq_some,
        Option.some.injEq, Value.integer.injEq]
      constructor
      · rintro ⟨within, rfl⟩
        exact ⟨rfl, within⟩
      · rintro ⟨rfl, within⟩
        exact ⟨within, rfl⟩
  | _ => simp [integer?]

theorem inverts_integer {lowest highest : Int} {of : Int → α} {number : α → Int}
    (bounds : ∀ item, lowest ≤ number item ∧ number item ≤ highest)
    (back : ∀ item, of (number item) = item)
    (forth : ∀ value, lowest ≤ value → value ≤ highest → number (of value) = value) :
    Inverts (fun value => (value.integer? lowest highest).map of)
      fun item => .integer (number item) := by
  intro value item
  simp only [Option.map_eq_some_iff, integer?_eq_some_iff]
  constructor
  · rintro ⟨integer, ⟨rfl, low, high⟩, rfl⟩
    rw [forth integer low high]
  · rintro rfl
    exact ⟨number item, ⟨rfl, bounds item⟩, back item⟩

theorem inverts_uint8 : Inverts uint8? fun number => .integer number.toNat := by
  refine inverts_integer (fun number => ?_) (fun number => by simp) fun value low high => ?_
  · have small := number.toNat_lt
    simp only [UInt8.size]
    omega
  · simp only [UInt8.size, UInt8.toNat_ofNat'] at high ⊢
    omega

theorem inverts_uint64 : Inverts uint64? fun number => .integer number.toNat := by
  refine inverts_integer (fun number => ?_) (fun number => by simp) fun value low high => ?_
  · have small := number.toNat_lt
    simp only [UInt64.size]
    omega
  · simp only [UInt64.size, UInt64.toNat_ofNat'] at high ⊢
    omega

theorem inverts_int32 : Inverts int32? fun number => .integer number.toInt := by
  refine inverts_integer (fun number => ?_) (fun number => by simp) fun value low high => ?_
  · exact ⟨Int32.minValue_le_toInt number, Int32.toInt_le number⟩
  · exact Int32.toInt_ofInt_of_le low (Int.lt_of_le_of_lt high (by decide))

theorem inverts_int64 : Inverts int64? fun number => .integer number.toInt := by
  refine inverts_integer (fun number => ?_) (fun number => by simp) fun value low high => ?_
  · exact ⟨Int64.minValue_le_toInt number, Int64.toInt_le number⟩
  · exact Int64.toInt_ofInt_of_le low (Int.lt_of_le_of_lt high (by decide))

theorem mapM_eq_some_iff (inverts : Inverts read write) (values : List Value) (items : List α) :
    values.mapM read = some items ↔ values = items.map write := by
  induction values generalizing items with
  | nil => cases items <;> simp
  | cons value values ih =>
      rw [List.mapM_cons]
      cases items with
      | nil => simp [Option.bind_eq_some_iff]
      | cons item items => simp [Option.bind_eq_some_iff, inverts value, ih]

theorem inverts_list (inverts : Inverts read write) :
    Inverts (list? read) fun items => .array (items.map write) := by
  intro value items
  cases value with
  | array values => simp [list?, mapM_eq_some_iff inverts]
  | _ => simp [list?]

theorem inverts_textPair :
    Inverts textPair? fun pair => .array [.text pair.1, .text pair.2] := by
  rintro value ⟨name, content⟩
  unfold textPair?
  split
  · rename_i first second
    simp [Option.bind_eq_some_iff, inverts_text first, inverts_text second]
  · rename_i other
    simp
    rintro rfl
    exact other _ _ rfl

/-- A field that may be left out reads as what is written there, or else as the fallback. -/
theorem orElse?_eq_some_iff (inverts : Inverts read write) (fallback item : α)
    (field : Option Value) :
    orElse? read fallback field = some item ↔ field.getD (write fallback) = write item := by
  cases field with
  | none =>
      rw [orElse?, Option.getD_none, ← inverts, read_write inverts]
  | some value => simp only [orElse?, Option.getD_some, inverts value]

end Json.Value

open Json (Value)

def Json.Rereads {α : Type} (toJson : α → Value) (ofJson? : Value → Option α) : Prop :=
  ∀ value, (parse? (toJson value).encode).bind ofJson? = some value

theorem Json.rereads_of_plain {α : Type} {toJson : α → Value} {ofJson? : Value → Option α}
    (plain : ∀ value, (toJson value).Plain) (back : ∀ value, ofJson? (toJson value) = some value) :
    Rereads toJson ofJson? := by
  intro value
  rw [parse?_encode (plain value), Option.bind_some, back]

theorem Stored.decode_encode {α : Type} {toJson : α → Value} {ofJson? : Value → Option α}
    (rereads : Json.Rereads toJson ofJson?) (space key : String) (value : α) :
    decode ofJson? space key (some (toJson value).encode) = .ok (some value) := by
  rw [decode, rereads value]

namespace Policy

/-- A policy is read where its members are those of the standard one, but for the fields that are
written. -/
theorem ofJson?_eq_some_iff {value : Value} {policy : Policy} :
    ofJson? value = some policy ↔ ∃ field, value.fields? fieldNames true = some field ∧
      standard.members.map (fun member => (member.1, (field member.1).getD member.2)) =
        policy.members := by
  have pairs := Value.inverts_list Value.inverts_textPair
  simp only [ofJson?, update?, Option.bind_eq_bind, Option.pure_def, Option.bind_eq_some_iff,
    Value.orElse?_eq_some_iff Value.inverts_uint8, Value.orElse?_eq_some_iff Value.inverts_uint64,
    Value.orElse?_eq_some_iff pairs]
  refine exists_congr fun field => and_congr_right fun _ => ?_
  simp only [members, List.map_cons, List.map_nil, List.cons.injEq, Prod.mk.injEq, true_and,
    and_true]
  constructor
  · rintro ⟨_, attempts, _, backoff, _, timeout, _, headers, _, step, _, grace, _, stack, same⟩
    cases same
    exact ⟨attempts, backoff, timeout, headers, step, grace, stack⟩
  · rintro ⟨attempts, backoff, timeout, headers, step, grace, stack⟩
    exact ⟨_, attempts, _, backoff, _, timeout, _, headers, _, step, _, grace, _, stack, rfl⟩

theorem ofJson?_toJson (policy : Policy) : ofJson? policy.toJson = some policy := by
  rw [ofJson?_eq_some_iff]
  exact ⟨_, rfl, rfl⟩

theorem plain_toJson (policy : Policy) : policy.toJson.Plain := by
  refine .members ?_
  simp only [members, List.forall_mem_cons, List.not_mem_nil, false_implies, implies_true, and_true]
  refine ⟨.integer _, .integer _, .integer _, .array ?_, .integer _, .integer _, .integer _⟩
  simp only [List.forall_mem_map]
  rintro ⟨name, content⟩ -
  refine .array ?_
  simp [Value.Plain.text]

theorem rereads : Json.Rereads toJson ofJson? :=
  Json.rereads_of_plain plain_toJson ofJson?_toJson

end Policy

namespace Event

theorem ofJson?_toJson (event : Event) : ofJson? event.toJson = some event := by
  simp [ofJson?, toJson, Value.fields?, Value.ofMembers, Value.read_write Value.inverts_text,
    Value.read_write Value.inverts_int32, Value.read_write Value.inverts_int64]

theorem plain_toJson (event : Event) : event.toJson.Plain := by
  refine .members ?_
  simp [Value.Plain.text, Value.Plain.integer]

theorem rereads : Json.Rereads toJson ofJson? :=
  Json.rereads_of_plain plain_toJson ofJson?_toJson

end Event

namespace SwapTrailer

theorem ofJson?_toJson (trailer : SwapTrailer) : ofJson? trailer.toJson = some trailer := by
  simp [ofJson?, toJson, Value.fields?, Value.ofMembers, Value.read_write Value.inverts_boolean]

theorem plain_toJson (trailer : SwapTrailer) : trailer.toJson.Plain := by
  refine .members ?_
  simp [Value.Plain.boolean]

theorem rereads : Json.Rereads toJson ofJson? :=
  Json.rereads_of_plain plain_toJson ofJson?_toJson

end SwapTrailer

end DualBank
