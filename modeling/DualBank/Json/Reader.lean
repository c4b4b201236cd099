import DualBank.Json.Basic

/-! Reading JSON, one byte at a time. The reader keeps the containers that wait for a value, so no
depth of nesting is too much for it, and every byte either moves it on or refuses the input. -/

namespace DualBank.Json

inductive Piece where
  | byte (value : UInt8)
  | unit (value : UInt16)
deriving DecidableEq

namespace Piece

def isHighSurrogate (unit : UInt16) : Bool :=
  0xd800 ≤ unit && unit < 0xdc00

def isLowSurrogate (unit : UInt16) : Bool :=
  0xdc00 ≤ unit && unit < 0xe000

def paired (high low : UInt16) : Char :=
  Char.ofNat (0x10000 + (high.toNat - 0xd800) * 0x400 + (low.toNat - 0xdc00))

-- The bytes the pieces stand for. A high surrogate has to be followed by a low one, and a low
-- one has to follow a high one.
def bytes? : List Piece → Option Bytes
  | [] => some []
  | .byte value :: rest => (bytes? rest).map (value :: ·)
  | .unit high :: .unit low :: rest =>
      if isHighSurrogate high then
        if isLowSurrogate low then
          (bytes? rest).map (String.utf8EncodeChar (paired high low) ++ ·)
        else none
      else if isLowSurrogate high then none
      else (bytes? (.unit low :: rest)).map (String.utf8EncodeChar (Char.ofNat high.toNat) ++ ·)
  | .unit value :: rest =>
      if isHighSurrogate value || isLowSurrogate value then none
      else (bytes? rest).map (String.utf8EncodeChar (Char.ofNat value.toNat) ++ ·)

def text? (pieces : List Piece) : Option String :=
  (bytes? pieces).bind Bytes.text?

end Piece

inductive Container where
  | array (items : List Value)
  | object (members : List (Option String × Value)) (name : Option String)

inductive Purpose where
  | value
  | name (members : List (Option String × Value))

inductive StringPart where
  | plain
  | escape
  | digits (missing : Nat) (value : UInt16)

inductive NumberPart where
  | sign
  | zero
  | whole
  | point
  | fraction
  | exponentMark
  | exponentSign
  | exponent

inductive Position where
  | value
  | firstItem
  | firstName
  | laterName (members : List (Option String × Value))
  | colon (members : List (Option String × Value)) (name : Option String)
  | afterItem (items : List Value)
  | afterMember (members : List (Option String × Value))
  | ended (value : Value)
  | word (rest : List Char) (value : Value)
  | string (purpose : Purpose) (part : StringPart) (pieces : List Piece)
  | number (part : NumberPart) (literal : Bytes)

structure Reader where
  waiting : List Container
  position : Position

namespace Reader

def isBlank (character : Char) : Bool :=
  character = ' ' || character = '\n' || character = '\t' || character = '\r'

def isDigit (character : Char) : Bool :=
  '0' ≤ character && character ≤ '9'

def hexDigit? (character : Char) : Option UInt16 :=
  if '0' ≤ character && character ≤ '9' then some (character.toNat - 48).toUInt16
  else if 'a' ≤ character && character ≤ 'f' then some (character.toNat - 87).toUInt16
  else if 'A' ≤ character && character ≤ 'F' then some (character.toNat - 55).toUInt16
  else none

def complete (value : Value) : List Container → Reader
  | [] => ⟨[], .ended value⟩
  | .array items :: outer => ⟨outer, .afterItem (value :: items)⟩
  | .object members name :: outer => ⟨outer, .afterMember ((name, value) :: members)⟩

def begin (waiting : List Container) (byte : UInt8) : Option Reader :=
  match Char.ofUInt8 byte with
  | '"' => some ⟨waiting, .string .value .plain []⟩
  | '[' => some ⟨waiting, .firstItem⟩
  | '{' => some ⟨waiting, .firstName⟩
  | 't' => some ⟨waiting, .word "rue".toList (.boolean true)⟩
  | 'f' => some ⟨waiting, .word "alse".toList (.boolean false)⟩
  | 'n' => some ⟨waiting, .word "ull".toList .null⟩
  | '-' => some ⟨waiting, .number .sign [byte]⟩
  | '0' => some ⟨waiting, .number .zero [byte]⟩
  | character =>
      if isDigit character then some ⟨waiting, .number .whole [byte]⟩
      else if isBlank character then some ⟨waiting, .value⟩
      else none

def between (reader : Reader) (byte : UInt8) : Option Reader :=
  if isBlank (Char.ofUInt8 byte) then some reader
  else
    match reader.position, Char.ofUInt8 byte with
    | .afterItem items, ',' => some ⟨.array items :: reader.waiting, .value⟩
    | .afterItem items, ']' => some (complete (.array items.reverse) reader.waiting)
    | .afterMember members, ',' => some ⟨reader.waiting, .laterName members⟩
    | .afterMember members, '}' => some (complete (.object members.reverse) reader.waiting)
    | _, _ => none

def numberPart? : NumberPart → Char → Option NumberPart
  | .sign, '0' => some .zero
  | .zero, '.' | .whole, '.' => some .point
  | .zero, 'e' | .zero, 'E' | .whole, 'e' | .whole, 'E' | .fraction, 'e' | .fraction, 'E' =>
      some .exponentMark
  | .exponentMark, '+' | .exponentMark, '-' => some .exponentSign
  | part, character =>
      if isDigit character then
        match part with
        | .sign | .whole => some .whole
        | .point | .fraction => some .fraction
        | .exponentMark | .exponentSign | .exponent => some .exponent
        | .zero => none
      else none

def decimal (digits : Bytes) : Nat :=
  digits.foldl (fun value digit => 10 * value + (digit.toNat - 48)) 0

def wholeNumber (literal : Bytes) : Value :=
  match literal with
  | 45 :: digits => if decimal digits = 0 then .real literal else .integer (-(decimal digits : Int))
  | digits => .integer (decimal digits)

def number? (part : NumberPart) (literal : Bytes) : Option Value :=
  match part with
  | .zero | .whole => some (wholeNumber literal.reverse)
  | .fraction | .exponent => some (.real literal.reverse)
  | .sign | .point | .exponentMark | .exponentSign => none

def stringEnd (waiting : List Container) (purpose : Purpose) (pieces : List Piece) : Reader :=
  match purpose with
  | .value => complete (.string (Piece.text? pieces.reverse)) waiting
  | .name members => ⟨waiting, .colon members (Piece.text? pieces.reverse)⟩

def escaped? : Char → Option UInt8
  | '"' => some 34
  | '\\' => some 92
  | '/' => some 47
  | 'b' => some 8
  | 'f' => some 12
  | 'n' => some 10
  | 'r' => some 13
  | 't' => some 9
  | _ => none

def inString (waiting : List Container) (purpose : Purpose) (pieces : List Piece) (byte : UInt8) :
    StringPart → Option Reader
  | .plain =>
      match Char.ofUInt8 byte with
      | '"' => some (stringEnd waiting purpose pieces)
      | '\\' => some ⟨waiting, .string purpose .escape pieces⟩
      | _ =>
          if byte < 32 then none
          else some ⟨waiting, .string purpose .plain (.byte byte :: pieces)⟩
  | .escape =>
      match Char.ofUInt8 byte with
      | 'u' => some ⟨waiting, .string purpose (.digits 4 0) pieces⟩
      | character =>
          (escaped? character).map fun meant =>
            ⟨waiting, .string purpose .plain (.byte meant :: pieces)⟩
  | .digits missing value =>
      (hexDigit? (Char.ofUInt8 byte)).map fun digit =>
        if missing ≤ 1 then ⟨waiting, .string purpose .plain (.unit (16 * value + digit) :: pieces)⟩
        else ⟨waiting, .string purpose (.digits (missing - 1) (16 * value + digit)) pieces⟩

def step (reader : Reader) (byte : UInt8) : Option Reader :=
  match reader.position with
  | .value => begin reader.waiting byte
  | .firstItem =>
      if Char.ofUInt8 byte = ']' then some (complete (.array []) reader.waiting)
      else if isBlank (Char.ofUInt8 byte) then some reader
      else begin (.array [] :: reader.waiting) byte
  | .firstName =>
      match Char.ofUInt8 byte with
      | '}' => some (complete (.object []) reader.waiting)
      | '"' => some ⟨reader.waiting, .string (.name []) .plain []⟩
      | character => if isBlank character then some reader else none
  | .laterName members =>
      match Char.ofUInt8 byte with
      | '"' => some ⟨reader.waiting, .string (.name members) .plain []⟩
      | character => if isBlank character then some reader else none
  | .colon members name =>
      match Char.ofUInt8 byte with
      | ':' => some ⟨.object members name :: reader.waiting, .value⟩
      | character => if isBlank character then some reader else none
  | .afterItem _ | .afterMember _ | .ended _ => between reader byte
  | .word rest value =>
      if rest = [Char.ofUInt8 byte] then some (complete value reader.waiting)
      else if rest.head? = some (Char.ofUInt8 byte) then
        some ⟨reader.waiting, .word rest.tail value⟩
      else none
  | .string purpose part pieces => inString reader.waiting purpose pieces byte part
  | .number part literal =>
      match numberPart? part (Char.ofUInt8 byte) with
      | some part => some ⟨reader.waiting, .number part (byte :: literal)⟩
      | none =>
          (number? part literal).bind fun value => between (complete value reader.waiting) byte

def finish (reader : Reader) : Option Value :=
  match reader.waiting, reader.position with
  | [], .ended value => some value
  | [], .number part literal => number? part literal
  | _, _ => none

end Reader

def parse? (input : Bytes) : Option Value :=
  (input.foldlM Reader.step ⟨[], .value⟩).bind Reader.finish

end DualBank.Json
