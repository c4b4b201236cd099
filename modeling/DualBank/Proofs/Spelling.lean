import DualBank.Json.Printer
import DualBank.Json.Reader
import Mathlib.Tactic.IntervalCases

/-! The reader along what the printer writes of a string and of a whole number. A string is read one
escape at a time, and a number one digit at a time. -/

namespace DualBank

namespace Bytes

def ofCharacters (characters : List Char) : Bytes :=
  characters.flatMap String.utf8EncodeChar

theorem ofText_ofList (characters : List Char) :
    ofText (String.ofList characters) = ofCharacters characters := by
  simp [ofText, ofCharacters, List.utf8Encode]

theorem ofText_eq (text : String) : ofText text = ofCharacters text.toList := by
  rw [← ofText_ofList, String.ofList_toList]

theorem utf8EncodeChar_of_lt {character : Char} (ascii : character.toNat < 128) :
    String.utf8EncodeChar character = [UInt8.ofNat character.toNat] :=
  if_pos (Nat.le_of_lt_succ ascii)

theorem ofUInt8_of_lt {character : Char} (ascii : character.toNat < 128) :
    Char.ofUInt8 (UInt8.ofNat character.toNat) = character := by
  apply Char.toNat_inj.1
  change (UInt8.ofNat character.toNat).toNat = character.toNat
  simp only [UInt8.toNat_ofNat']
  omega

theorem high_of_mem {character : Char} (wide : 128 ≤ character.toNat) {byte : UInt8}
    (among : byte ∈ String.utf8EncodeChar character) : 128 ≤ byte.toNat := by
  have large : ¬ character.val.toNat ≤ 0x7f := Nat.not_le.2 wide
  unfold String.utf8EncodeChar at among
  simp only [large, if_false] at among
  split at among
  · simp only [List.mem_cons, List.not_mem_nil, or_false] at among
    rcases among with rfl | rfl <;> simp <;> omega
  · split at among
    · simp only [List.mem_cons, List.not_mem_nil, or_false] at among
      rcases among with rfl | rfl | rfl <;> simp <;> omega
    · simp only [List.mem_cons, List.not_mem_nil, or_false] at among
      rcases among with rfl | rfl | rfl | rfl <;> simp <;> omega

end Bytes

namespace Json

namespace Piece

theorem bytes?_unit {unit : UInt16} (high : isHighSurrogate unit = false)
    (low : isLowSurrogate unit = false) (rest : List Piece) :
    bytes? (.unit unit :: rest) =
      (bytes? rest).map (String.utf8EncodeChar (Char.ofNat unit.toNat) ++ ·) := by
  cases rest with
  | nil => simp [bytes?, high, low]
  | cons piece rest => cases piece <;> simp [bytes?, high, low]

theorem bytes?_bytes (content : Bytes) (rest : List Piece) :
    bytes? (content.map .byte ++ rest) = (bytes? rest).map (content ++ ·) := by
  induction content with
  | nil => simp
  | cons byte content ih => simp [bytes?, ih, Function.comp_def]

end Piece

namespace Reader

def Reads (before : Reader) (characters : List Char) (after : Reader) : Prop :=
  (Bytes.ofCharacters characters).foldlM Reader.step before = some after

variable {before between after : Reader} {first second rest : List Char} {character : Char}

theorem reads_nil (reader : Reader) : Reads reader [] reader := rfl

theorem reads_append (one : Reads before first between) (other : Reads between second after) :
    Reads before (first ++ second) after := by
  unfold Reads Bytes.ofCharacters at one other ⊢
  rw [List.flatMap_append, List.foldlM_append, one]
  exact other

theorem reads_cons (ascii : character.toNat < 128)
    (step : before.step (UInt8.ofNat character.toNat) = some between)
    (onward : Reads between rest after) : Reads before (character :: rest) after := by
  unfold Reads Bytes.ofCharacters at onward ⊢
  rw [List.flatMap_cons, Bytes.utf8EncodeChar_of_lt ascii, List.singleton_append, List.foldlM_cons,
    step]
  exact onward

def Spells (characters : List Char) (content : Bytes) : Prop :=
  ∃ added : List Piece,
    (∀ waiting purpose pieces, Reads ⟨waiting, .string purpose .plain pieces⟩ characters
      ⟨waiting, .string purpose .plain (added.reverse ++ pieces)⟩) ∧
    ∀ rest, Piece.bytes? (added ++ rest) = (Piece.bytes? rest).map (content ++ ·)

theorem spells_append {one other : Bytes} (before : Spells first one)
    (after : Spells second other) : Spells (first ++ second) (one ++ other) := by
  obtain ⟨earlier, reads, means⟩ := before
  obtain ⟨later, continues, further⟩ := after
  refine ⟨earlier ++ later, fun waiting purpose pieces => ?_, fun rest => ?_⟩
  · rw [List.reverse_append, List.append_assoc]
    exact reads_append (reads waiting purpose pieces) (continues waiting purpose _)
  · rw [List.append_assoc, means, further]
    simp [Function.comp_def]

theorem step_plain {byte : UInt8} (quote : byte ≠ 34) (backslash : byte ≠ 92)
    (printable : ¬ byte < 32) (waiting : List Container) (purpose : Purpose) (pieces : List Piece) :
    step ⟨waiting, .string purpose .plain pieces⟩ byte =
      some ⟨waiting, .string purpose .plain (.byte byte :: pieces)⟩ := by
  have same (character : Char) (is : Char.ofUInt8 byte = character) :
      byte.toNat = character.toNat := congrArg Char.toNat is
  simp only [step, inString]
  split
  · rename_i is
    exact absurd (UInt8.toNat_inj.1 (same _ is)) quote
  · rename_i is
    exact absurd (UInt8.toNat_inj.1 (same _ is)) backslash
  · rw [if_neg printable]

theorem spells_plain (quote : character ≠ '"') (backslash : character ≠ '\\')
    (printable : ¬ character.toNat < 32) :
    Spells [character] (String.utf8EncodeChar character) := by
  have plain : ∀ byte ∈ String.utf8EncodeChar character, byte ≠ 34 ∧ byte ≠ 92 ∧ ¬ byte < 32 := by
    intro byte among
    simp only [ne_eq, ← UInt8.toNat_inj, UInt8.lt_iff_toNat_lt]
    by_cases ascii : character.toNat < 128
    · rw [Bytes.utf8EncodeChar_of_lt ascii, List.mem_singleton] at among
      have number : byte.toNat = character.toNat := by
        rw [among, UInt8.toNat_ofNat']
        omega
      have other : character.toNat ≠ '"'.toNat := fun same => quote (Char.toNat_inj.1 same)
      have another : character.toNat ≠ '\\'.toNat := fun same => backslash (Char.toNat_inj.1 same)
      simp at other another ⊢
      omega
    · have high := Bytes.high_of_mem (Nat.le_of_not_lt ascii) among
      simp
      omega
  refine ⟨(String.utf8EncodeChar character).map .byte, fun waiting purpose pieces => ?_,
    Piece.bytes?_bytes _⟩
  unfold Reads Bytes.ofCharacters
  rw [List.flatMap_singleton]
  generalize String.utf8EncodeChar character = content at plain
  induction content generalizing pieces with
  | nil => rfl
  | cons byte content ih =>
      obtain ⟨⟨quote, backslash, printable⟩, others⟩ := List.forall_mem_cons.1 plain
      rw [List.foldlM_cons, step_plain quote backslash printable]
      simpa using ih (.byte byte :: pieces) others

theorem spells_short {letter : Char} {meant : UInt8} (ascii : letter.toNat < 128)
    (means : escaped? letter = some meant) : Spells ['\\', letter] [meant] := by
  refine ⟨[.byte meant], fun waiting purpose pieces => ?_, Piece.bytes?_bytes [meant]⟩
  refine reads_cons (by decide) rfl (reads_cons ascii ?_ (reads_nil _))
  simp only [step, inString, Bytes.ofUInt8_of_lt ascii]
  split
  · simp [escaped?] at means
  · simp [means]

theorem hexDigit?_digitChar : ∀ digit < 16,
    hexDigit? (Nat.digitChar digit) = some digit.toUInt16 ∧ (Nat.digitChar digit).toNat < 128 := by
  decide

theorem step_digit {digit : Nat} (small : digit < 16) (waiting : List Container) (purpose : Purpose)
    (pieces : List Piece) (missing : Nat) (value : UInt16) :
    step ⟨waiting, .string purpose (.digits missing value) pieces⟩
        (UInt8.ofNat (Nat.digitChar digit).toNat) =
      some (if missing ≤ 1 then
        ⟨waiting, .string purpose .plain (.unit (16 * value + digit.toUInt16) :: pieces)⟩
      else ⟨waiting,
        .string purpose (.digits (missing - 1) (16 * value + digit.toUInt16)) pieces⟩) := by
  obtain ⟨means, ascii⟩ := hexDigit?_digitChar digit small
  simp [step, inString, Bytes.ofUInt8_of_lt ascii, means]

theorem spells_control (control : character.toNat < 32) :
    Spells ['\\', 'u', '0', '0', Nat.digitChar (character.toNat / 16),
      Nat.digitChar (character.toNat % 16)] (String.utf8EncodeChar character) := by
  have first : character.toNat / 16 < 16 := by omega
  have second : character.toNat % 16 < 16 := by omega
  have unit : (16 * (character.toNat / 16).toUInt16 + (character.toNat % 16).toUInt16).toNat =
      character.toNat := by
    simp
    omega
  refine ⟨[.unit (16 * (character.toNat / 16).toUInt16 + (character.toNat % 16).toUInt16)],
    fun waiting purpose pieces => ?_, fun rest => ?_⟩
  · have zero (missing : Nat) :
        step ⟨waiting, .string purpose (.digits (missing + 2) 0) pieces⟩
            (UInt8.ofNat (Nat.digitChar 0).toNat) =
          some ⟨waiting, .string purpose (.digits (missing + 1) 0) pieces⟩ := by
      simpa using step_digit (by decide : 0 < 16) waiting purpose pieces (missing + 2) 0
    have upper := step_digit first waiting purpose pieces 2 0
    have lower := step_digit second waiting purpose pieces 1 (character.toNat / 16).toUInt16
    simp only [UInt16.mul_zero, UInt16.zero_add] at upper
    refine reads_cons (by decide) rfl (reads_cons (by decide) rfl ?_)
    refine reads_cons (by decide) (zero 2) (reads_cons (by decide) (zero 1) ?_)
    refine reads_cons (hexDigit?_digitChar _ first).2 upper ?_
    exact reads_cons (hexDigit?_digitChar _ second).2 lower (reads_nil _)
  · rw [List.singleton_append, Piece.bytes?_unit, unit, Char.ofNat_toNat]
    · simp [Piece.isHighSurrogate, UInt16.le_iff_toNat_le, unit]
      omega
    · simp [Piece.isLowSurrogate, UInt16.le_iff_toNat_le, unit]
      omega

theorem spells_escaped (character : Char) :
    Spells (escapedCharacter character) (String.utf8EncodeChar character) := by
  unfold escapedCharacter
  iterate 7
    split
    · subst_vars
      exact spells_short (by decide) rfl
  split
  · rename_i control
    exact spells_control control
  · rename_i quote backslash _ _ _ _ _ printable
    exact spells_plain quote backslash printable

theorem spells_text (text : String) :
    Spells (text.toList.flatMap escapedCharacter) (Bytes.ofText text) := by
  rw [Bytes.ofText_eq, Bytes.ofCharacters]
  induction text.toList with
  | nil => exact ⟨[], fun _ _ _ => reads_nil _, fun rest => by simp⟩
  | cons character rest ih => exact spells_append (spells_escaped character) ih

def textEnd (waiting : List Container) (text : String) : Purpose → Reader
  | .value => complete (.text text) waiting
  | .name members => ⟨waiting, .colon members (some text)⟩

theorem reads_text (waiting : List Container) (purpose : Purpose) (text : String) :
    Reads ⟨waiting, .string purpose .plain []⟩ (text.toList.flatMap escapedCharacter ++ ['"'])
      (textEnd waiting text purpose) := by
  obtain ⟨added, reads, means⟩ := spells_text text
  have spelled : Piece.text? added = some text := by
    have bytes : Piece.bytes? added = some (Bytes.ofText text) := by
      simpa [Piece.bytes?] using means []
    simp [Piece.text?, bytes]
  refine reads_append (reads waiting purpose []) (reads_cons (by decide) ?_ (reads_nil _))
  change some (stringEnd waiting purpose (added.reverse ++ [])) = _
  cases purpose <;> simp [stringEnd, textEnd, spelled, Value.text]

section Numbers

variable {waiting : List Container} {literal : Bytes} {digit number : Nat}

def digitByte (digit : Nat) : UInt8 :=
  UInt8.ofNat (Nat.digitChar digit).toNat

def numeral (number : Nat) : Bytes :=
  (Nat.toDigits 10 number).map fun character => UInt8.ofNat character.toNat

theorem toNat_digitByte (small : digit < 10) : (digitByte digit).toNat = 48 + digit := by
  interval_cases digit <;> rfl

theorem numeral_of_lt (small : digit < 10) : numeral digit = [digitByte digit] := by
  rw [numeral, Nat.toDigits_of_lt_base small]
  rfl

theorem toDigits_shift (positive : 0 < number) (small : digit < 10) :
    Nat.toDigits 10 (10 * number + digit) = Nat.toDigits 10 number ++ [Nat.digitChar digit] := by
  rw [← Nat.toDigits_append_toDigits (by decide) positive small, Nat.toDigits_of_lt_base small]

theorem numeral_shift (positive : 0 < number) (small : digit < 10) :
    numeral (10 * number + digit) = numeral number ++ [digitByte digit] := by
  rw [numeral, toDigits_shift positive small, List.map_append]
  rfl

theorem decimal_concat (digits : Bytes) (byte : UInt8) :
    decimal (digits ++ [byte]) = 10 * decimal digits + (byte.toNat - 48) := by
  simp [decimal]

theorem decimal_numeral (number : Nat) : decimal (numeral number) = number := by
  induction number using Nat.base_induction 10 (by decide) with
  | single digit small =>
      have value := toNat_digitByte small
      simp [numeral_of_lt small, decimal, value]
  | digit number digit small positive ih =>
      have value := toNat_digitByte small
      rw [numeral_shift positive small, decimal_concat, ih]
      omega

theorem le_of_mem_numeral {byte : UInt8} (among : byte ∈ numeral number) : 48 ≤ byte.toNat := by
  induction number using Nat.base_induction 10 (by decide) with
  | single digit small =>
      have value := toNat_digitByte small
      rw [numeral_of_lt small, List.mem_singleton] at among
      subst among
      omega
  | digit number digit small positive ih =>
      have value := toNat_digitByte small
      rw [numeral_shift positive small, List.mem_append, List.mem_singleton] at among
      rcases among with among | rfl
      · exact ih among
      · omega

theorem wholeNumber_numeral (number : Nat) : wholeNumber (numeral number) = .integer number := by
  have value := decimal_numeral number
  unfold wholeNumber
  split
  · rename_i digits same
    have minus : (45 : UInt8) ∈ numeral number := by simp [same]
    have impossible := le_of_mem_numeral minus
    contradiction
  · rw [value]

theorem wholeNumber_minus (positive : 0 < number) :
    wholeNumber (45 :: numeral number) = .integer (-number) := by
  have value := decimal_numeral number
  rw [wholeNumber, value, if_neg (by omega)]

theorem step_whole (small : digit < 10) :
    step ⟨waiting, .number .whole literal⟩ (digitByte digit) =
      some ⟨waiting, .number .whole (digitByte digit :: literal)⟩ := by
  interval_cases digit <;> rfl

theorem step_first (positive : 0 < digit) (small : digit < 10) :
    step ⟨waiting, .value⟩ (digitByte digit) =
      some ⟨waiting, .number .whole [digitByte digit]⟩ := by
  interval_cases digit <;> rfl

theorem step_signed (positive : 0 < digit) (small : digit < 10) :
    step ⟨waiting, .number .sign literal⟩ (digitByte digit) =
      some ⟨waiting, .number .whole (digitByte digit :: literal)⟩ := by
  interval_cases digit <;> rfl

theorem toNat_digitChar_lt (small : digit < 10) : (Nat.digitChar digit).toNat < 128 := by
  interval_cases digit <;> decide

theorem reads_numeral {start : Reader} (positive : 0 < number)
    (begins : ∀ digit, 0 < digit → digit < 10 → start.step (digitByte digit) =
      some ⟨waiting, .number .whole (digitByte digit :: literal)⟩) :
    Reads start (Nat.toDigits 10 number)
      ⟨waiting, .number .whole ((numeral number).reverse ++ literal)⟩ := by
  induction number using Nat.base_induction 10 (by decide) with
  | single digit small =>
      rw [Nat.toDigits_of_lt_base small, numeral_of_lt small]
      exact reads_cons (toNat_digitChar_lt small) (begins digit positive small) (reads_nil _)
  | digit number digit small more ih =>
      rw [toDigits_shift more small, numeral_shift more small, List.reverse_append]
      refine reads_append (ih more) ?_
      exact reads_cons (toNat_digitChar_lt small) (step_whole small) (reads_nil _)

end Numbers

end Reader

end Json

end DualBank
