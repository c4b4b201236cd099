/-! Byte strings, their reading as text, and little-endian numbers in them. -/

namespace DualBank

abbrev Bytes := List UInt8

namespace Bytes

def ofText (text : String) : Bytes :=
  text.toByteArray.data.toList

def text? (bytes : Bytes) : Option String :=
  String.fromUTF8? ⟨bytes.toArray⟩

theorem text?_eq_some_iff (bytes : Bytes) (text : String) :
    text? bytes = some text ↔ bytes = ofText text := by
  constructor
  · intro found
    simp only [text?, String.fromUTF8?, Option.dite_none_right_eq_some] at found
    obtain ⟨valid, same⟩ := found
    simp only [Option.some.injEq] at same
    subst same
    simp [ofText, String.fromUTF8]
  · rintro rfl
    simp [text?, ofText, String.fromUTF8?, String.fromUTF8, text.isValidUTF8]

@[simp]
theorem text?_ofText (text : String) : text? (ofText text) = some text :=
  (text?_eq_some_iff _ _).2 rfl

theorem ofText_length (text : String) : (ofText text).length = text.utf8ByteSize := by
  rfl

def littleEndian : Bytes → Nat
  | [] => 0
  | byte :: rest => byte.toNat + 256 * littleEndian rest

def ofLittleEndian : (count : Nat) → Nat → Bytes
  | 0, _ => []
  | count + 1, value => UInt8.ofNat value :: ofLittleEndian count (value / 256)

@[simp]
theorem ofLittleEndian_length (count value : Nat) :
    (ofLittleEndian count value).length = count := by
  induction count generalizing value with
  | zero => rfl
  | succ count ih => simp [ofLittleEndian, ih]

theorem littleEndian_ofLittleEndian (count value : Nat) :
    littleEndian (ofLittleEndian count value) = value % Nat.pow 256 count := by
  induction count generalizing value with
  | zero => simp [ofLittleEndian, littleEndian, Nat.mod_one]
  | succ count ih =>
      have lowest : (UInt8.ofNat value).toNat = value % 256 := by simp
      have larger : Nat.pow 256 (count + 1) = 256 * Nat.pow 256 count := Nat.mul_comm ..
      rw [ofLittleEndian, littleEndian, ih, lowest, larger, Nat.mod_mul]

theorem ofLittleEndian_littleEndian (bytes : Bytes) :
    ofLittleEndian bytes.length (littleEndian bytes) = bytes := by
  induction bytes with
  | nil => rfl
  | cons byte rest ih =>
      have small : byte.toNat < 256 := byte.toNat_lt
      have others : (byte.toNat + 256 * littleEndian rest) / 256 = littleEndian rest := by omega
      rw [List.length_cons, ofLittleEndian, littleEndian, others, ih]
      simp

end Bytes

end DualBank
