import DualBank.Image

/-! The header of an image, written and read. Six numbers are read, and what stands in the bytes
between them makes no difference. -/

namespace DualBank

namespace Bytes

theorem littleEndian_lt (bytes : Bytes) : littleEndian bytes < Nat.pow 256 bytes.length := by
  have whole := littleEndian_ofLittleEndian bytes.length (littleEndian bytes)
  rw [ofLittleEndian_littleEndian] at whole
  rw [whole]
  exact Nat.mod_lt _ (Nat.pow_pos (by decide))

theorem littleEndian_inj {one other : Bytes} (lengths : one.length = other.length) :
    littleEndian one = littleEndian other ↔ one = other := by
  constructor
  · intro same
    have back := ofLittleEndian_littleEndian one
    rw [same, lengths, ofLittleEndian_littleEndian] at back
    exact back.symm
  · intro same
    rw [same]

theorem littleEndian_ofLittleEndian_of_lt (count : Nat) {value : Nat}
    (fits : value < Nat.pow 256 count) :
    littleEndian (ofLittleEndian count value) = value := by
  rw [littleEndian_ofLittleEndian]
  exact Nat.mod_eq_of_lt fits

end Bytes

namespace Image.Header

def IsRead (place : Nat) : Prop :=
  place < 4 ∨ (12 ≤ place ∧ place < 16) ∨ (20 ≤ place ∧ place < 28)

def Agrees (one other : Bytes) : Prop :=
  ∀ place, IsRead place → one[place]? = other[place]?

def numbers : List (Nat × Nat) :=
  [(0, 4), (12, 4), (20, 1), (21, 1), (22, 2), (24, 4)]

variable {raw one other : Bytes} {place count : Nat} {imageSize : UInt32} {version : Version}

theorem isRead_iff : IsRead place ↔
    ∃ number ∈ numbers, number.1 ≤ place ∧ place < number.1 + number.2 := by
  simp only [IsRead, numbers, List.mem_cons, List.not_mem_nil, or_false, exists_eq_or_imp,
    exists_eq_left]
  omega

theorem numbers_within : ∀ number ∈ numbers, number.1 + number.2 ≤ size := by
  decide

theorem length_encode (imageSize : UInt32) (version : Version) :
    (encode imageSize version).length = size := by
  simp [encode, size]

theorem numberAt_lt (raw : Bytes) (place count : Nat) :
    numberAt raw place count < Nat.pow 256 count := by
  have bound := Bytes.littleEndian_lt ((raw.drop place).take count)
  have short : ((raw.drop place).take count).length ≤ count := List.length_take_le _ _
  exact Nat.lt_of_lt_of_le bound (Nat.pow_le_pow_right (by decide) short)

theorem numberAt_eq_iff (oneLong : place + count ≤ one.length)
    (otherLong : place + count ≤ other.length) :
    numberAt one place count = numberAt other place count ↔
      ∀ byte, place ≤ byte → byte < place + count → one[byte]? = other[byte]? := by
  have lengths : ((one.drop place).take count).length = ((other.drop place).take count).length := by
    simp only [List.length_take, List.length_drop]
    omega
  rw [numberAt, numberAt, Bytes.littleEndian_inj lengths]
  constructor
  · intro same byte after before
    have offset := congrArg (·[byte - place]?) same
    have back : place + (byte - place) = byte := by omega
    have inside : byte - place < count := by omega
    simpa only [List.getElem?_take, if_pos inside, List.getElem?_drop, back] using offset
  · intro same
    apply List.ext_getElem?
    intro offset
    by_cases inside : offset < count
    · simp only [List.getElem?_take, if_pos inside, List.getElem?_drop]
      exact same (place + offset) (by omega) (by omega)
    · simp only [List.getElem?_take, if_neg inside]

theorem agrees_iff (oneLong : size ≤ one.length) (otherLong : size ≤ other.length) :
    Agrees one other ↔
      ∀ number ∈ numbers, numberAt one number.1 number.2 = numberAt other number.1 number.2 := by
  constructor
  · intro agrees number listed
    have within := numbers_within number listed
    rw [numberAt_eq_iff (by omega) (by omega)]
    intro byte after before
    exact agrees byte (isRead_iff.2 ⟨number, listed, after, before⟩)
  · intro same byte read
    obtain ⟨number, listed, after, before⟩ := isRead_iff.1 read
    have within := numbers_within number listed
    exact (numberAt_eq_iff (by omega) (by omega)).1 (same number listed) byte after before

theorem numberAt_encode (imageSize : UInt32) (version : Version) :
    numberAt (encode imageSize version) 0 4 = magicNumber.toNat ∧
      numberAt (encode imageSize version) 12 4 = imageSize.toNat ∧
      numberAt (encode imageSize version) 20 1 = version.major.toNat ∧
      numberAt (encode imageSize version) 21 1 = version.minor.toNat ∧
      numberAt (encode imageSize version) 22 2 = version.revision.toNat ∧
      numberAt (encode imageSize version) 24 4 = version.build.toNat := by
  -- How long each part is does not depend on the numbers, so cutting one out is a computation.
  refine ⟨?_, ?_, ?_, ?_, ?_, ?_⟩
  · exact Bytes.littleEndian_ofLittleEndian_of_lt 4 magicNumber.toNat_lt
  · exact Bytes.littleEndian_ofLittleEndian_of_lt 4 imageSize.toNat_lt
  · rfl
  · rfl
  · exact Bytes.littleEndian_ofLittleEndian_of_lt 2 version.revision.toNat_lt
  · exact Bytes.littleEndian_ofLittleEndian_of_lt 4 version.build.toNat_lt

theorem agrees_encode_iff (long : size ≤ raw.length) :
    Agrees (encode imageSize version) raw ↔
      numberAt raw 0 4 = magicNumber.toNat ∧
        numberAt raw 12 4 = imageSize.toNat ∧
        numberAt raw 20 1 = version.major.toNat ∧
        numberAt raw 21 1 = version.minor.toNat ∧
        numberAt raw 22 2 = version.revision.toNat ∧
        numberAt raw 24 4 = version.build.toNat := by
  obtain ⟨magic, size, major, minor, revision, build⟩ := numberAt_encode imageSize version
  rw [agrees_iff (Nat.le_of_eq (length_encode imageSize version).symm) long]
  simp only [numbers, List.forall_mem_cons, List.not_mem_nil, false_implies, implies_true, and_true,
    magic, size, major, minor, revision, build]
  simp only [eq_comm]

section Words

theorem word32_iff (place : Nat) (word : UInt32) :
    UInt32.ofNat (numberAt raw place 4) = word ↔ numberAt raw place 4 = word.toNat := by
  have fits : numberAt raw place 4 < 2 ^ 32 := numberAt_lt raw place 4
  rw [UInt32.ofNat_eq_iff_mod_eq_toNat, Nat.mod_eq_of_lt fits]

theorem word16_iff (place : Nat) (word : UInt16) :
    UInt16.ofNat (numberAt raw place 2) = word ↔ numberAt raw place 2 = word.toNat := by
  have fits : numberAt raw place 2 < 2 ^ 16 := numberAt_lt raw place 2
  rw [UInt16.ofNat_eq_iff_mod_eq_toNat, Nat.mod_eq_of_lt fits]

theorem word8_iff (place : Nat) (word : UInt8) :
    UInt8.ofNat (numberAt raw place 1) = word ↔ numberAt raw place 1 = word.toNat := by
  have fits : numberAt raw place 1 < 2 ^ 8 := numberAt_lt raw place 1
  rw [UInt8.ofNat_eq_iff_mod_eq_toNat, Nat.mod_eq_of_lt fits]

end Words

/-- A header is read as this one just if it would be written the same where it is read. -/
theorem parse?_eq_some_iff (raw : Bytes) (header : Header) :
    parse? raw = some header ↔ size ≤ raw.length ∧ header.magic = magicNumber ∧
      Agrees (encode header.imageSize header.version) raw := by
  obtain ⟨magic, imageSize, major, minor, revision, build⟩ := header
  by_cases long : size ≤ raw.length
  · rw [agrees_encode_iff long, ← word32_iff 12, ← word8_iff 20, ← word8_iff 21, ← word16_iff 22,
      ← word32_iff 24]
    by_cases marked : numberAt raw 0 4 = magicNumber.toNat
    · rw [parse?, if_pos (by simp [long, marked]), Option.some.injEq]
      constructor
      · intro same
        cases same
        exact ⟨long, rfl, marked, rfl, rfl, rfl, rfl, rfl⟩
      · rintro ⟨-, rfl, -, rfl, rfl, rfl, rfl, rfl⟩
        rfl
    · simp [parse?, marked]
  · simp [parse?, long]

theorem agrees_trans {first second third : Bytes} (one : Agrees first second)
    (other : Agrees second third) : Agrees first third := by
  intro place read
  exact (one place read).trans (other place read)

theorem parse?_encode (imageSize : UInt32) (version : Version) :
    parse? (encode imageSize version) = some ⟨magicNumber, imageSize, version⟩ := by
  rw [parse?_eq_some_iff]
  exact ⟨Nat.le_of_eq (length_encode imageSize version).symm, rfl, fun _ _ => rfl⟩

theorem parse?_of_agrees (lengths : one.length = other.length) (agrees : Agrees one other) :
    parse? one = parse? other := by
  apply Option.ext
  intro header
  have back : Agrees other one := fun place read => (agrees place read).symm
  rw [parse?_eq_some_iff, parse?_eq_some_iff, lengths]
  constructor
  · rintro ⟨long, magic, written⟩
    exact ⟨long, magic, agrees_trans written agrees⟩
  · rintro ⟨long, magic, written⟩
    exact ⟨long, magic, agrees_trans written back⟩

end Image.Header

def Image.IsHeaded (image : Bytes) : Prop :=
  Header.size ≤ image.length ∧ Header.magicBytes <+: image

namespace Image

theorem parse?_eq_none_iff (raw : Bytes) : Header.parse? raw = none ↔ ¬ IsHeaded raw := by
  unfold Header.parse?
  by_cases long : Header.size ≤ raw.length
  · have room : 4 ≤ raw.length := Nat.le_trans (by decide) long
    simp [IsHeaded, long, Header.numberAt_zero_iff room]
  · simp [IsHeaded, long]

theorem isSome_parse?_iff (raw : Bytes) : (Header.parse? raw).isSome ↔
    Header.size ≤ raw.length ∧ [0x3d, 0xb8, 0xf3, 0x96] <+: raw := by
  have bytes : Header.magicBytes = [0x3d, 0xb8, 0xf3, 0x96] := by decide
  rw [← bytes, Option.isSome_iff_ne_none, Ne, parse?_eq_none_iff, Classical.not_not, IsHeaded]

theorem isHeaded_take (image : Bytes) : IsHeaded (image.take Header.size) ↔ IsHeaded image := by
  have short : Header.magicBytes.length ≤ Header.size := by decide
  simp only [IsHeaded, List.length_take, Nat.le_min, Nat.le_refl, true_and,
    List.prefix_take_iff, short, and_true]

end Image

open Image Image.Header

/-- A header is read as it was written, whatever its size and version are. Of 32 bytes or more the
first four tell whether there is a header, and there is one just if it would be written the same at
the places that are read; what stands elsewhere does not count. -/
theorem header_read_as_written :
    (∀ imageSize version, (encode imageSize version).length = size ∧
      parse? (encode imageSize version) = some ⟨magicNumber, imageSize, version⟩) ∧
    (∀ raw, (parse? raw).isSome ↔ size ≤ raw.length ∧ [0x3d, 0xb8, 0xf3, 0x96] <+: raw) ∧
    (∀ raw header, parse? raw = some header ↔ size ≤ raw.length ∧ header.magic = magicNumber ∧
      Agrees (encode header.imageSize header.version) raw) ∧
    ∀ raw other, raw.length = other.length → Agrees raw other → parse? raw = parse? other := by
  refine ⟨fun imageSize version => ?_, isSome_parse?_iff, parse?_eq_some_iff, ?_⟩
  · exact ⟨length_encode imageSize version, parse?_encode imageSize version⟩
  · intro raw other lengths agrees
    exact parse?_of_agrees lengths agrees

namespace Image.Header

def sampleVersion : Version := ⟨2, 1, 7, 42⟩

def sampleRaw : Bytes :=
  [0x3d, 0xb8, 0xf3, 0x96, 1, 2, 3, 4, 5, 6, 7, 8, 210, 4, 0, 0, 9, 10, 11, 12, 2, 1, 7, 0,
    42, 0, 0, 0, 13, 14, 15, 16]

end Image.Header

theorem header_read_as_written_sample :
    sampleRaw.length = (encode 1234 sampleVersion).length ∧
      sampleRaw ≠ encode 1234 sampleVersion ∧ Agrees sampleRaw (encode 1234 sampleVersion) ∧
      parse? sampleRaw = parse? (encode 1234 sampleVersion) := by
  obtain ⟨-, -, read, others⟩ := header_read_as_written
  have known : parse? sampleRaw = some ⟨magicNumber, 1234, sampleVersion⟩ := by decide
  have lengths : sampleRaw.length = (encode 1234 sampleVersion).length := by decide
  have agrees : Agrees sampleRaw (encode 1234 sampleVersion) := by
    intro place inside
    exact (((read _ _).1 known).2.2 place inside).symm
  exact ⟨lengths, by decide, agrees, others _ _ lengths agrees⟩

end DualBank
