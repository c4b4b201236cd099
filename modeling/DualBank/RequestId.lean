import DualBank.Bytes

/-! The identifier of a request, in the width in which it is stored. -/

namespace DualBank

/-- A text whose UTF-8 form fills exactly the space kept for a textual UUID. -/
structure RequestId where
  text : String
  width : text.utf8ByteSize = 36
deriving DecidableEq

namespace RequestId

def ofText? (text : String) : Option RequestId :=
  if width : text.utf8ByteSize = 36 then some ⟨text, width⟩ else none

def encode (id : RequestId) : Bytes :=
  Bytes.ofText id.text ++ [0]

def decode? (stored : Bytes) : Option RequestId :=
  (Bytes.text? (stored.takeWhile (· ≠ 0))).bind ofText?

theorem ofText?_eq_some_iff (text : String) (id : RequestId) :
    ofText? text = some id ↔ text = id.text := by
  unfold ofText?
  split
  · rename_i width
    constructor
    · intro same
      simp only [Option.some.injEq] at same
      exact same ▸ rfl
    · intro same
      subst same
      rfl
  · rename_i width
    constructor
    · intro impossible
      contradiction
    · intro same
      exact absurd (same ▸ id.width) width

theorem decode?_encode (id : RequestId) (noZero : ∀ byte ∈ Bytes.ofText id.text, byte ≠ 0) :
    decode? id.encode = some id := by
  have whole : id.encode.takeWhile (· ≠ 0) = Bytes.ofText id.text := by
    rw [encode, List.takeWhile_append_of_pos (by simpa using noZero)]
    simp
  rw [decode?, whole, Bytes.text?_ofText]
  exact (ofText?_eq_some_iff id.text id).2 rfl

end RequestId

def isCanonicalAt (place : Nat) (byte : UInt8) : Bool :=
  if place = 8 || place = 13 || place = 18 || place = 23 then byte == 45
  else (48 ≤ byte && byte ≤ 57) || (65 ≤ byte && byte ≤ 70) || (97 ≤ byte && byte ≤ 102)

def isCanonical (uuid : String) : Bool :=
  let bytes := Bytes.ofText uuid
  bytes.length == 36 && bytes.zipIdx.all fun (byte, place) => isCanonicalAt place byte

theorem width_of_isCanonical {uuid : String} (canonical : isCanonical uuid = true) :
    uuid.utf8ByteSize = 36 := by
  simp only [isCanonical, Bool.and_eq_true, beq_iff_eq] at canonical
  exact canonical.1

theorem ne_zero_of_isCanonical {uuid : String} (canonical : isCanonical uuid = true) :
    ∀ byte ∈ Bytes.ofText uuid, byte ≠ 0 := by
  rintro byte inside rfl
  simp only [isCanonical, Bool.and_eq_true, List.all_eq_true] at canonical
  obtain ⟨place, found⟩ := List.mem_iff_getElem?.1 inside
  have allowed := canonical.2 (0, place) (List.mem_zipIdx_iff_getElem?.2 found)
  simp only [isCanonicalAt] at allowed
  split at allowed <;> contradiction

end DualBank
