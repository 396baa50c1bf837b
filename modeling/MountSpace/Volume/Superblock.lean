import MountSpace.Bytes
import MountSpace.Fault

/-!
# `MountSpace.Volume.Superblock`: the first bytes of a volume

The first block of a volume starts with eighteen bytes: four that mark
it as a volume, two for the version of the format, and three numbers of
four bytes each, little-endian: the size of a block, the number of
blocks and the length of the image in the blocks that follow.
-/

set_option autoImplicit false

namespace MountSpace

/-- What the first block of a volume says about it. -/
structure Superblock where
  blockSize : UInt32
  blockCount : UInt32
  imageLength : UInt32
  deriving DecidableEq, Repr

namespace Superblock

open Bytes (littleEndian)
open Bytes.Reader (take number reject)

/-- The mark of a volume: the letters `BKFS`. -/
def mark : Bytes := [0x42, 0x4b, 0x46, 0x53]

/-- The version of the format. -/
def version : Nat := 1

/-- The number of bytes of a superblock. -/
def length : Nat := 18

/-- The bytes of a superblock. -/
def encode (superblock : Superblock) : Bytes :=
  mark ++ littleEndian 2 version
    ++ littleEndian 4 superblock.blockSize.toNat
    ++ littleEndian 4 superblock.blockCount.toNat
    ++ littleEndian 4 superblock.imageLength.toNat

/-- Reads a superblock. -/
def read : Bytes.Reader Superblock := do
  let found ← take 4
  if found ≠ mark then reject
  else
    let foundVersion ← number 2
    if foundVersion ≠ version then reject
    else
      let blockSize ← number 4
      let blockCount ← number 4
      let imageLength ← number 4
      return ⟨.ofNat blockSize, .ofNat blockCount, .ofNat imageLength⟩

/-- The superblock at the start of a byte string. -/
def decode? (data : Bytes) : Option Superblock :=
  (read.run data).map Prod.fst

/-- The superblock at the start of a byte string, which is corrupted if
there is none. -/
def decode (data : Bytes) : Except Fault Superblock :=
  match decode? data with
  | some superblock => .ok superblock
  | none => .error .corrupted

end Superblock

end MountSpace
