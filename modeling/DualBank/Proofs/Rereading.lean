import DualBank.Proofs.Spelling

/-! Whole values that are written and read again. A number ends only where something else begins, so
what is said of a value that has been read is how the reader goes on from there. -/

namespace DualBank

namespace Json

namespace Reader

variable {first : List Char}

structure Ends (reader : Reader) (value : Value) (waiting : List Container) : Prop where
  next : ∀ byte ∈ ([44, 93, 125] : Bytes), reader.step byte = (complete value waiting).between byte
  last : waiting = [] → reader.finish = some value

def Readable (value : Value) : Prop :=
  ∀ waiting, ∃ after, Reads ⟨waiting, .value⟩ value.characters after ∧ Ends after value waiting

theorem ends_complete (value : Value) (waiting : List Container) :
    Ends (complete value waiting) value waiting where
  next byte among := by
    cases waiting with
    | nil => rfl
    | cons container outer => cases container <;> rfl
  last nothing := by
    subst nothing
    rfl

theorem ends_number {value : Value} {waiting : List Container} {part : NumberPart} {literal : Bytes}
    (whole : part = .zero ∨ part = .whole) (means : wholeNumber literal.reverse = value) :
    Ends ⟨waiting, .number part literal⟩ value waiting := by
  subst means
  constructor
  · intro byte among
    simp only [List.mem_cons, List.not_mem_nil, or_false] at among
    rcases whole with rfl | rfl <;> rcases among with rfl | rfl | rfl <;> rfl
  · intro nothing
    subst nothing
    rcases whole with rfl | rfl <;> rfl

theorem characters_ofNat (number : Nat) :
    (Value.integer (.ofNat number)).characters = Nat.toDigits 10 number := by
  rw [Value.characters]
  exact Nat.toList_repr

theorem characters_negSucc (number : Nat) :
    (Value.integer (.negSucc number)).characters = '-' :: Nat.toDigits 10 (number + 1) := by
  rw [Value.characters]
  change ("-" ++ Nat.repr (number + 1)).toList = _
  rw [String.toList_append, Nat.toList_repr]
  rfl

theorem readable_integer (value : Int) : Readable (.integer value) := by
  intro waiting
  cases value with
  | ofNat number =>
      rw [characters_ofNat]
      by_cases zero : number = 0
      · subst zero
        exact ⟨_, reads_cons (by decide) rfl (reads_nil _), ends_number (.inl rfl) rfl⟩
      · refine ⟨_, reads_numeral (Nat.pos_of_ne_zero zero) fun digit => step_first, ?_⟩
        refine ends_number (.inr rfl) ?_
        rw [List.append_nil, List.reverse_reverse]
        exact wholeNumber_numeral number
  | negSucc number =>
      rw [characters_negSucc]
      refine ⟨_, reads_cons (by decide) rfl (reads_numeral (Nat.succ_pos number)
        fun digit => step_signed), ends_number (.inr rfl) ?_⟩
      rw [List.reverse_append, List.reverse_reverse]
      exact wholeNumber_minus (Nat.succ_pos number)

end Reader

inductive Value.Plain : Value → Prop
  | null : Plain .null
  | boolean (value : Bool) : Plain (.boolean value)
  | integer (value : Int) : Plain (.integer value)
  | text (value : String) : Plain (.text value)
  | array {items : List Value} : (∀ item ∈ items, Plain item) → Plain (.array items)
  | members {members : List (String × Value)} :
      (∀ member ∈ members, Plain member.2) → Plain (.ofMembers members)

namespace Reader

theorem readable_text (text : String) : Readable (.text text) := by
  intro waiting
  refine ⟨_, ?_, ends_complete _ waiting⟩
  exact reads_cons (by decide) rfl (reads_text waiting .value text)

def Opening (characters : List Char) : Prop :=
  ∃ first rest, characters = first :: rest ∧ first.toNat < 128 ∧ first ≠ ']' ∧
    isBlank first = false

theorem opening_append (opening : Opening first) (second : List Char) :
    Opening (first ++ second) := by
  obtain ⟨character, rest, rfl, holds⟩ := opening
  exact ⟨character, rest ++ second, rfl, holds⟩

theorem opening_digits (number : Nat) : Opening (Nat.toDigits 10 number) := by
  induction number using Nat.base_induction 10 (by decide) with
  | single digit small =>
      rw [Nat.toDigits_of_lt_base small]
      refine ⟨_, [], rfl, ?_⟩
      interval_cases digit <;> decide
  | digit number digit small more ih =>
      rw [toDigits_shift more small]
      exact opening_append ih _

theorem opening_of_plain {value : Value} (plain : value.Plain) : Opening value.characters := by
  cases plain with
  | null => exact ⟨_, _, rfl, by decide, by decide, by decide⟩
  | boolean value => cases value <;> exact ⟨_, _, rfl, by decide, by decide, by decide⟩
  | integer value =>
      cases value with
      | ofNat number =>
          rw [characters_ofNat]
          exact opening_digits number
      | negSucc number =>
          rw [characters_negSucc]
          exact ⟨_, _, rfl, by decide, by decide, by decide⟩
  | text value => exact ⟨_, _, rfl, by decide, by decide, by decide⟩
  | array items => exact ⟨_, _, rfl, by decide, by decide, by decide⟩
  | members members => exact ⟨_, _, rfl, by decide, by decide, by decide⟩

variable {waiting : List Container}

theorem reads_firstItem {characters : List Char} {after : Reader} (opening : Opening characters)
    (reads : Reads ⟨.array [] :: waiting, .value⟩ characters after) :
    Reads ⟨waiting, .firstItem⟩ characters after := by
  obtain ⟨first, rest, rfl, ascii, other, unblank⟩ := opening
  unfold Reads Bytes.ofCharacters at reads ⊢
  rw [List.flatMap_cons, Bytes.utf8EncodeChar_of_lt ascii, List.singleton_append,
    List.foldlM_cons] at reads ⊢
  simpa [step, Bytes.ofUInt8_of_lt ascii, other, unblank] using reads

theorem reads_items {items : List Value} (readable : ∀ item ∈ items, Readable item)
    (filled : items ≠ []) (earlier : List Value) :
    Reads ⟨.array earlier :: waiting, .value⟩ (itemCharacters items ++ [']'])
      (complete (.array (earlier.reverse ++ items)) waiting) := by
  induction items generalizing earlier with
  | nil => contradiction
  | cons item rest ih =>
      obtain ⟨first, others⟩ := List.forall_mem_cons.1 readable
      obtain ⟨after, reads, ends⟩ := first (.array earlier :: waiting)
      cases rest with
      | nil =>
          have closed := ends.next 93 (by decide)
          refine reads_append (by rwa [itemCharacters]) (reads_cons (by decide) closed ?_)
          simp only [List.reverse_cons]
          exact reads_nil _
      | cons next rest =>
          have spelled : itemCharacters (item :: next :: rest) =
              item.characters ++ ',' :: itemCharacters (next :: rest) := by
            rw [itemCharacters]
            simp
          have onward := ih others (by simp) (item :: earlier)
          have separated := ends.next 44 (by decide)
          rw [spelled, List.append_assoc]
          rw [List.reverse_cons, List.append_assoc] at onward
          exact reads_append reads (reads_cons (by decide) separated onward)

theorem readable_array {items : List Value} (readable : ∀ item ∈ items, Readable item)
    (plain : ∀ item ∈ items, item.Plain) : Readable (.array items) := by
  intro waiting
  refine ⟨_, ?_, ends_complete _ waiting⟩
  cases items with
  | nil => exact reads_cons (by decide) rfl (reads_cons (by decide) rfl (reads_nil _))
  | cons item rest =>
      have opening : Opening (itemCharacters (item :: rest)) := by
        have first := opening_of_plain (plain item (.head _))
        cases rest with
        | nil => rwa [itemCharacters]
        | cons next rest =>
            rw [itemCharacters]
            · exact opening_append first _
            · simp
      refine reads_cons (by decide) rfl (reads_firstItem (opening_append opening _) ?_)
      exact reads_items readable (by simp) []

section Members

variable {start : Reader} {earlier : List (Option String × Value)}

theorem reads_member {value : Value} (readable : Readable value) (name : String)
    (opens : start.step 34 = some ⟨waiting, .string (.name earlier) .plain []⟩) :
    ∃ after, Reads start (quotedText name ++ ':' :: value.characters) after ∧
      Ends after value (.object earlier (some name) :: waiting) := by
  obtain ⟨after, reads, ends⟩ := readable (.object earlier (some name) :: waiting)
  have named := reads_text waiting (.name earlier) name
  refine ⟨after, ?_, ends⟩
  exact reads_append (reads_cons (by decide) opens named) (reads_cons (by decide) rfl reads)

def named (member : String × Value) : Option String × Value :=
  (some member.1, member.2)

theorem reads_members {members : List (String × Value)}
    (readable : ∀ member ∈ members, Readable member.2) (filled : members ≠ [])
    (opens : start.step 34 = some ⟨waiting, .string (.name earlier) .plain []⟩) :
    Reads start (memberCharacters (members.map named) ++ ['}'])
      (complete (.object (earlier.reverse ++ members.map named)) waiting) := by
  induction members generalizing start earlier with
  | nil => contradiction
  | cons member rest ih =>
      obtain ⟨first, others⟩ := List.forall_mem_cons.1 readable
      obtain ⟨after, reads, ends⟩ := reads_member first member.1 opens
      cases rest with
      | nil =>
          have closed := ends.next 125 (by decide)
          refine reads_append reads (reads_cons (by decide) closed ?_)
          rw [List.reverse_cons]
          exact reads_nil _
      | cons next rest =>
          have spelled : memberCharacters ((member :: next :: rest).map named) =
              quotedText member.1 ++ ':' :: member.2.characters ++
                ',' :: memberCharacters ((next :: rest).map named) := by
            simp [memberCharacters, named]
          have separated : after.step 44 = some ⟨waiting, .laterName (named member :: earlier)⟩ :=
            ends.next 44 (by decide)
          have opens : step ⟨waiting, .laterName (named member :: earlier)⟩ 34 =
              some ⟨waiting, .string (.name (named member :: earlier)) .plain []⟩ := rfl
          have onward := ih others (by simp) opens
          rw [spelled, List.append_assoc]
          rw [List.reverse_cons, List.append_assoc] at onward
          exact reads_append reads (reads_cons (by decide) separated onward)

end Members

theorem readable_members {members : List (String × Value)}
    (readable : ∀ member ∈ members, Readable member.2) : Readable (.ofMembers members) := by
  intro waiting
  refine ⟨_, ?_, ends_complete _ waiting⟩
  by_cases empty : members = []
  · subst empty
    exact reads_cons (by decide) rfl (reads_cons (by decide) rfl (reads_nil _))
  · have opens : step ⟨waiting, .firstName⟩ 34 =
        some ⟨waiting, .string (.name []) .plain []⟩ := rfl
    exact reads_cons (by decide) rfl (reads_members readable empty opens)

theorem readable_of_plain {value : Value} (plain : value.Plain) : Readable value := by
  induction plain with
  | null => exact fun waiting => ⟨_, rfl, ends_complete .null waiting⟩
  | boolean value =>
      cases value with
      | true => exact fun waiting => ⟨_, rfl, ends_complete (.boolean true) waiting⟩
      | false => exact fun waiting => ⟨_, rfl, ends_complete (.boolean false) waiting⟩
  | integer value => exact readable_integer value
  | text value => exact readable_text value
  | array plain ih => exact readable_array ih plain
  | members plain ih => exact readable_members ih

end Reader

/-- What is written of a plain value reads as that value again. -/
theorem parse?_encode {value : Value} (plain : value.Plain) : parse? value.encode = some value := by
  obtain ⟨after, reads, ends⟩ := Reader.readable_of_plain plain []
  have written : value.encode = Bytes.ofCharacters value.characters := Bytes.ofText_ofList _
  rw [parse?, written, reads]
  exact ends.last rfl

end Json

end DualBank
