import DualBank.Bytes

/-! The header at the start of an image: 32 bytes, every number with its lowest byte first.

| at | bytes | field            |
|----|-------|------------------|
| 0  | 4     | magic number     |
| 4  | 4     | load address     |
| 8  | 2     | header size      |
| 10 | 2     | protected fields |
| 12 | 4     | image size       |
| 16 | 4     | flags            |
| 20 | 8     | version          |
| 28 | 4     | padding          |
-/

namespace DualBank.Image

structure Version where
  major : UInt8
  minor : UInt8
  revision : UInt16
  build : UInt32
deriving DecidableEq

def Version.text (version : Version) : String :=
  toString version.major ++ "." ++ toString version.minor ++ "." ++ toString version.revision ++
    "+" ++ toString version.build

structure Header where
  magic : UInt32
  imageSize : UInt32
  version : Version
deriving DecidableEq

namespace Header

def magicNumber : UInt32 := 0x96f3b83d

def size : Nat := 32

def numberAt (raw : Bytes) (place count : Nat) : Nat :=
  Bytes.littleEndian ((raw.drop place).take count)

-- Reads the header at the start of an image. The magic number alone tells whether there is one.
def parse? (raw : Bytes) : Option Header :=
  if size ≤ raw.length && numberAt raw 0 4 = magicNumber.toNat then
    some
      { magic := magicNumber
        imageSize := UInt32.ofNat (numberAt raw 12 4)
        version :=
          { major := UInt8.ofNat (numberAt raw 20 1)
            minor := UInt8.ofNat (numberAt raw 21 1)
            revision := UInt16.ofNat (numberAt raw 22 2)
            build := UInt32.ofNat (numberAt raw 24 4) } }
  else none

def encode (imageSize : UInt32) (version : Version) : Bytes :=
  Bytes.ofLittleEndian 4 magicNumber.toNat ++ Bytes.ofLittleEndian 4 0 ++
    Bytes.ofLittleEndian 2 size ++ Bytes.ofLittleEndian 2 0 ++
    Bytes.ofLittleEndian 4 imageSize.toNat ++ Bytes.ofLittleEndian 4 0 ++
    [version.major, version.minor] ++ Bytes.ofLittleEndian 2 version.revision.toNat ++
    Bytes.ofLittleEndian 4 version.build.toNat ++ Bytes.ofLittleEndian 4 0

def magicBytes : Bytes :=
  Bytes.ofLittleEndian 4 magicNumber.toNat

theorem numberAt_zero_iff {raw : Bytes} (long : 4 ≤ raw.length) :
    numberAt raw 0 4 = magicNumber.toNat ↔ magicBytes <+: raw := by
  have four : (raw.take 4).length = 4 := by simp [long]
  rw [List.prefix_iff_eq_take, magicBytes, Bytes.ofLittleEndian_length, numberAt, List.drop_zero]
  constructor
  · intro same
    have whole := Bytes.ofLittleEndian_littleEndian (raw.take 4)
    rwa [four, same] at whole
  · intro same
    rw [← same, Bytes.littleEndian_ofLittleEndian]
    rfl

end Header

end DualBank.Image
