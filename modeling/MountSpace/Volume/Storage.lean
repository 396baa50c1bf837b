import MountSpace.Device
import MountSpace.Driver
import MountSpace.Limits
import MountSpace.Tree.Image
import MountSpace.Volume.Superblock

/-!
# `MountSpace.Volume.Storage`: trees on a device

The image of a tree lies in the blocks of a device from the second one
on, and the superblock in the first one says how long it is. The first
block is written last.

* `Geometry`: the size and the number of blocks that a device reports;
  `Geometry.capacity` is the number of bytes that an image can have.
* `Tree.store`: writes a tree. An image that is too long is refused
  before anything is written. Numbers that do not fit the superblock are
  noticed after the image is written.
* `Tree.load`: reads a tree, and takes only what fits the device.
-/

set_option autoImplicit false

namespace MountSpace

/-- The size of a block and the number of blocks. -/
structure Geometry where
  blockSize : Nat
  blockCount : Nat
  deriving DecidableEq, Repr

namespace Geometry

/-- The number of bytes in the blocks after the first one. -/
def capacity (geometry : Geometry) : Nat :=
  (geometry.blockCount - 1) * geometry.blockSize

/-- The capacity, which has to fit a machine word. -/
def room {τ : Type} (geometry : Geometry) : Action τ Nat :=
  if geometry.capacity < wordLimit then pure geometry.capacity
  else Action.stop .capacityOverflow

/-- The superblock for an image of the given length, if the numbers
fit. -/
def superblock (geometry : Geometry) (imageLength : Nat) :
    Except Fault Superblock :=
  if geometry.blockSize < fieldLimit ∧ geometry.blockCount < fieldLimit
      ∧ imageLength < fieldLimit then
    .ok ⟨.ofNat geometry.blockSize, .ofNat geometry.blockCount,
      .ofNat imageLength⟩
  else
    .error .noSpace

/-- Whether a superblock is one for a device of this geometry. -/
def Admits (geometry : Geometry) (superblock : Superblock) : Prop :=
  superblock.blockSize.toNat = geometry.blockSize
    ∧ superblock.blockCount.toNat = geometry.blockCount
    ∧ superblock.imageLength.toNat ≤ geometry.capacity

instance (geometry : Geometry) (superblock : Superblock) :
    Decidable (geometry.Admits superblock) :=
  inferInstanceAs (Decidable (_ ∧ _ ∧ _))

end Geometry

namespace Medium

variable {σ : Type} [BlockDevice σ]

/-- Makes a control request, which has to succeed. -/
def control (request : Control) : Action (Medium σ) Unit := do
  let answer ← ask (BlockDevice.control request)
  if answer < 0 then Action.refuse .ioError

theorem run_control (request : Control) (medium : Medium σ) :
    (control request).run medium =
      match (BlockDevice.control request).run medium.device with
      | .ok (answer, device) =>
        if answer < 0 then .refused .ioError { medium with device }
        else .done () { medium with device }
      | .error trap => .stopped trap := by
  rw [control, Action.run_bind, run_ask]
  cases (BlockDevice.control request).run medium.device with
  | error trap => rfl
  | ok answer =>
    obtain ⟨told, device⟩ := answer
    by_cases failed : told < 0
    · simp only [if_pos failed, Action.run_refuse]
    · simp only [if_neg failed, Action.run_pure]

/-- The geometry that the device reports. -/
def geometry : Action (Medium σ) Geometry := do
  match ← ask BlockDevice.blockSize with
  | none => Action.refuse .ioError
  | some blockSize =>
    match ← ask BlockDevice.blockCount with
    | none => Action.refuse .ioError
    | some blockCount => return ⟨blockSize, blockCount⟩

theorem run_geometry (medium : Medium σ) :
    geometry.run medium =
      match (BlockDevice.blockSize : Call σ (Option Nat)).run
          medium.device with
      | .ok (some blockSize, device) =>
        match (BlockDevice.blockCount : Call σ (Option Nat)).run device with
        | .ok (some blockCount, device) =>
          .done ⟨blockSize, blockCount⟩ { medium with device }
        | .ok (none, device) => .refused .ioError { medium with device }
        | .error trap => .stopped trap
      | .ok (none, device) => .refused .ioError { medium with device }
      | .error trap => .stopped trap := by
  rw [geometry, Action.run_bind, run_ask]
  cases (BlockDevice.blockSize : Call σ (Option Nat)).run
      medium.device with
  | error trap => rfl
  | ok answer =>
    obtain ⟨size, device⟩ := answer
    cases size with
    | none => rfl
    | some blockSize =>
      simp only [Action.run_bind, run_ask]
      cases (BlockDevice.blockCount : Call σ (Option Nat)).run device with
      | error trap => rfl
      | ok answer =>
        obtain ⟨count, device⟩ := answer
        cases count <;> rfl

/-- Reads bytes from the start of a block. -/
def readBlock (block length : Nat) : Action (Medium σ) Bytes := do
  match ← ask (BlockDevice.read block 0 length) with
  | some data => return data.toList
  | none => Action.refuse .ioError

theorem run_readBlock (block length : Nat) (medium : Medium σ) :
    (readBlock block length).run medium =
      match (BlockDevice.read block 0 length).run medium.device with
      | .ok (some data, device) => .done data.toList { medium with device }
      | .ok (none, device) => .refused .ioError { medium with device }
      | .error trap => .stopped trap := by
  rw [readBlock, Action.run_bind, run_ask]
  cases (BlockDevice.read block 0 length).run medium.device with
  | error trap => rfl
  | ok answer =>
    obtain ⟨found, device⟩ := answer
    cases found <;> rfl

/-- Erases a block and writes bytes at its start. -/
def replaceBlock (block : Nat) (data : Bytes) :
    Action (Medium σ) Unit := do
  if ← ask (BlockDevice.eraseBlock block) then
    if ← ask (BlockDevice.write block 0 data) then
      return
    else Action.refuse .ioError
  else Action.refuse .ioError

theorem run_replaceBlock (block : Nat) (data : Bytes)
    (medium : Medium σ) :
    (replaceBlock block data).run medium =
      match (BlockDevice.eraseBlock block).run medium.device with
      | .ok (true, device) =>
        match (BlockDevice.write block 0 data).run device with
        | .ok (true, device) => .done () { medium with device }
        | .ok (false, device) => .refused .ioError { medium with device }
        | .error trap => .stopped trap
      | .ok (false, device) => .refused .ioError { medium with device }
      | .error trap => .stopped trap := by
  rw [replaceBlock, Action.run_bind, run_ask]
  cases (BlockDevice.eraseBlock block).run medium.device with
  | error trap => rfl
  | ok answer =>
    obtain ⟨erased, device⟩ := answer
    cases erased with
    | false => rfl
    | true =>
      simp only [if_true, Action.run_bind, run_ask]
      cases (BlockDevice.write block 0 data).run device with
      | error trap => rfl
      | ok answer =>
        obtain ⟨written, device⟩ := answer
        cases written <;> rfl

/-- Writes bytes to the blocks from the given one on. -/
def replaceBlocks (blockSize block : Nat) (data : Bytes) :
    Action (Medium σ) Unit :=
  if _h : 0 < blockSize ∧ data ≠ [] then do
    replaceBlock block (data.take blockSize)
    replaceBlocks blockSize (block + 1) (data.drop blockSize)
  else
    pure ()
termination_by data.length
decreasing_by
  have := List.length_pos_iff.mpr _h.2
  rw [List.length_drop]
  omega

/-- Reads `length` bytes from the blocks from the given one on. What was
read before, last byte first, is put in front of them. -/
def readBlocks (blockSize block length : Nat) (before : Bytes) :
    Action (Medium σ) Bytes :=
  if _h : 0 < blockSize ∧ 0 < length then do
    let piece ← readBlock block (min blockSize length)
    readBlocks blockSize (block + 1) (length - blockSize)
      (piece.reverse ++ before)
  else
    pure before.reverse
termination_by length

end Medium

namespace Tree

variable {σ : Type} [BlockDevice σ]

/-- Writes a tree to a device of the given geometry. -/
def store (root : Tree) (geometry : Geometry) :
    Action (Medium σ) Unit := do
  let image := root.encode
  let capacity ← geometry.room
  if capacity < image.length then
    Medium.note (.imageTooLarge image.length capacity)
    Action.refuse .noSpace
  else
    Medium.replaceBlocks geometry.blockSize 1 image
    -- Until here the old superblock stands, and with it the old length.
    let superblock ←
      Action.ofExcept (geometry.superblock image.length)
    Medium.replaceBlock 0 superblock.encode
    Medium.control .sync
    Medium.note (.imageCommitted image.length)

/-- Reads the tree on a device of the given geometry. -/
def load (geometry : Geometry) : Action (Medium σ) Tree := do
  if geometry.blockSize < Superblock.length then
    Action.refuse .corrupted
  else
    let start ← Medium.readBlock 0 Superblock.length
    let superblock ← Action.ofExcept (Superblock.decode start)
    if geometry.Admits superblock then
      let image ← Medium.readBlocks geometry.blockSize 1
        superblock.imageLength.toNat []
      match ← Action.ofExcept (decode image) with
      | .directory entries => return .directory entries
      | .file _ => Action.refuse .corrupted
    else Action.refuse .corrupted

end Tree

end MountSpace
