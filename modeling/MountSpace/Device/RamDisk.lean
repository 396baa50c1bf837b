import Std.Data.ExtTreeMap
import MountSpace.Device
import MountSpace.Limits

/-!
# `MountSpace.Device.RamDisk`: a disk in memory

A disk has a size and blocks of one length. A transfer stays within one
block. All bytes are zero before they are written and after they are
erased, so of each block only its first bytes are kept, up to the last
one that was written.

`RamDisk.holds` says whether a transfer is on the disk. All numbers are
machine words, and it is careful with the sums it needs: a transfer that
leaves its block or starts past the last address is refused, but one
that starts at an address and ends past the last one stops the disk.
-/

set_option autoImplicit false

namespace MountSpace

/-- A disk in memory. -/
structure RamDisk where
  /-- The number of bytes of the disk. -/
  size : Nat
  /-- The number of bytes of a block. -/
  blockSize : Nat
  /-- The first bytes of blocks, under their numbers. All others are
  zero. -/
  blocks : Std.ExtTreeMap Nat Bytes
  deriving DecidableEq, Repr

namespace RamDisk

/-- The block size of a disk that is not given one. -/
def defaultBlockSize : Nat := 4096

/-- The number of blocks of a disk that is not given one. -/
def defaultBlockCount : Nat := 16

/-- A disk of zeros. -/
def blank (blockSize blockCount : Nat) : Except Trap RamDisk :=
  if blockSize * blockCount < sizeLimit then
    .ok ⟨blockSize * blockCount, blockSize, ∅⟩
  else
    .error .sizeOverflow

/-- Blocks with the given contents, from the given block on. -/
def fill (blockSize block : Nat) (data : Bytes)
    (blocks : Std.ExtTreeMap Nat Bytes) : Std.ExtTreeMap Nat Bytes :=
  if h : 0 < blockSize ∧ data ≠ [] then
    have : (data.drop blockSize).length < data.length := by
      have := List.length_pos_iff.mpr h.2
      rw [List.length_drop]
      omega
    fill blockSize (block + 1) (data.drop blockSize)
      (blocks.insert block (data.take blockSize))
  else
    blocks
termination_by data.length

/-- A disk with the given contents, less what is left over after the
last whole block. -/
def ofBytes (data : Bytes) (blockSize : Nat) : Except Trap RamDisk :=
  if blockSize = 0 then .error .zeroBlockSize
  else
    let size := data.length - data.length % blockSize
    .ok ⟨size, blockSize, fill blockSize 0 (data.take size) ∅⟩

/-- What is kept of a block. -/
def kept (disk : RamDisk) (block : Nat) : Bytes :=
  disk.blocks.getD block []

/-- Whether a transfer of `length` bytes that begins `offset` bytes into
a block is on the disk. -/
def holds (disk : RamDisk) (block offset length : Nat) :
    Except Trap Bool :=
  let start := block * disk.blockSize + offset
  if disk.blockSize < offset + length then .ok false
  else if wordLimit ≤ start then .ok false
  -- Only the last block before the last address can come to this.
  else if wordLimit ≤ start + length then .error .addressOverflow
  else .ok (start + length ≤ disk.size)

/-- Reads within a block. -/
def read (block offset length : Nat) :
    Call RamDisk (Option (Vector UInt8 length)) :=
  StateT.mk fun disk => do
    if ← disk.holds block offset length then
      let found := Bytes.window (disk.kept block) offset length
      let data := found ++ Bytes.zeros (length - found.length)
      have full : data.toArray.size = length := by
        simp only [data, found, Bytes.window, Bytes.zeros,
          List.size_toArray, List.length_append, List.length_take,
          List.length_drop, List.length_replicate]
        omega
      return (some ⟨data.toArray, full⟩, disk)
    else return (none, disk)

/-- Writes within a block. -/
def write (block offset : Nat) (data : Bytes) : Call RamDisk Bool :=
  StateT.mk fun disk => do
    if ← disk.holds block offset data.length then
      let kept := (disk.kept block).splice offset data
      return (true, { disk with blocks := disk.blocks.insert block kept })
    else return (false, disk)

/-- Answers a control request. There is nothing to start, to shut down
or to wait for. -/
def control (request : Control) : Call RamDisk Int :=
  StateT.mk fun disk =>
    match request with
    | .start | .shutdown | .sync => .ok (0, disk)
    | .blockSize => .ok (signedWord disk.blockSize, disk)
    | .blockCount =>
      if disk.blockSize = 0 then .error .zeroBlockSize
      else .ok (signedWord (disk.size / disk.blockSize), disk)
    | .erase block => do
      if ← disk.holds block 0 disk.blockSize then
        return (0, { disk with blocks := disk.blocks.erase block })
      else return (-1, disk)

instance : BlockDevice RamDisk where
  read := read
  write := write
  control := control

end RamDisk

end MountSpace
