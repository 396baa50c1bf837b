import MountSpace.Device.RamDisk
import MountSpace.Volume.Storage

/-!
# `MountSpace.Proofs.Storage.Disk`: what a disk holds

Reading and writing whole byte strings is said here about disks as
values, without the calls that get there:

* `start` is the first bytes of a block and `contents` a byte string that
  lies in successive blocks.
* `replace` is a disk with one block erased and written, `replaceAll` one
  with a byte string put into successive blocks.

`contents_replaceAll` says that what was put there is found again,
whatever the blocks held before, and `contents_congr` that later writes
to other blocks leave it alone.

The second half leads from calls to these values. On a device that can be
read like a volume (`Legible`), and so on one that a volume can be on
(`Readable`), a transfer that lies within the blocks is done, and does just
that (`run_readBlocks`, `run_replaceBlocks`).
-/

set_option autoImplicit false

namespace MountSpace.Proofs.Storage

open Bytes (zeros)

/-! ### Disks as values -/

/-- The size of a block and the number of whole blocks. -/
def geometryOf (disk : RamDisk) : Geometry :=
  ⟨disk.blockSize, disk.size / disk.blockSize⟩

/-- The first bytes of a block. -/
def start (disk : RamDisk) (block length : Nat) : Bytes :=
  let found := (disk.kept block).take length
  found ++ zeros (length - found.length)

/-- The bytes that lie in the blocks from the given one on. -/
def contents (disk : RamDisk) (blockSize block length : Nat) : Bytes :=
  if _more : 0 < blockSize ∧ 0 < length then
    start disk block (min blockSize length)
      ++ contents disk blockSize (block + 1) (length - blockSize)
  else []
termination_by length

/-- The disk with a block that holds these bytes and nothing else. -/
def replace (disk : RamDisk) (block : Nat) (data : Bytes) : RamDisk :=
  { disk with blocks := (disk.blocks.erase block).insert block data }

/-- The disk with these bytes in the blocks from the given one on. -/
def replaceAll (disk : RamDisk) (blockSize block : Nat) (data : Bytes) :
    RamDisk :=
  if _more : 0 < blockSize ∧ data ≠ [] then
    replaceAll (replace disk block (data.take blockSize)) blockSize
      (block + 1) (data.drop blockSize)
  else disk
termination_by data.length
decreasing_by
  have := List.length_pos_iff.mpr _more.2
  rw [List.length_drop]
  omega

@[simp]
theorem geometryOf_replace (disk : RamDisk) (block : Nat) (data : Bytes) :
    geometryOf (replace disk block data) = geometryOf disk := rfl

theorem geometryOf_replaceAll (disk : RamDisk) (blockSize block : Nat)
    (data : Bytes) :
    geometryOf (replaceAll disk blockSize block data)
      = geometryOf disk := by
  fun_induction replaceAll disk blockSize block data with
  | case1 disk block data more ih => rw [ih, geometryOf_replace]
  | case2 disk block data none => rfl

theorem kept_replace (disk : RamDisk) (block other : Nat) (data : Bytes) :
    (replace disk block data).kept other
      = if block = other then data else disk.kept other := by
  simp only [RamDisk.kept, replace, Std.ExtTreeMap.getD_insert,
    Nat.compare_eq_eq, Std.ExtTreeMap.getD_erase]
  split <;> rfl

/-- Blocks before the first one that is written are left alone. -/
theorem kept_replaceAll_of_lt (disk : RamDisk) (blockSize block : Nat)
    (data : Bytes) {other : Nat} (before : other < block) :
    (replaceAll disk blockSize block data).kept other
      = disk.kept other := by
  fun_induction replaceAll disk blockSize block data with
  | case1 disk block data more ih =>
    rw [ih (Nat.lt_succ_of_lt before), kept_replace,
      if_neg (Nat.ne_of_gt before)]
  | case2 disk block data none => rfl

/-- What is kept of a block is all that can be read of it. -/
theorem start_congr {disk other : RamDisk} {block : Nat}
    (same : disk.kept block = other.kept block) (length : Nat) :
    start disk block length = start other block length := by
  rw [start, start, same]

/-- A block that holds no more than is asked for is read whole. -/
theorem start_eq_kept (disk : RamDisk) (block : Nat) :
    start disk block (disk.kept block).length = disk.kept block := by
  simp [start, zeros]

theorem length_start (disk : RamDisk) (block length : Nat) :
    (start disk block length).length = length := by
  simp only [start, zeros, List.length_append, List.length_take,
    List.length_replicate]
  omega

/-- The first block, and those behind it. -/
theorem contents_of_pos (disk : RamDisk) {blockSize length : Nat}
    (more : 0 < blockSize ∧ 0 < length) (block : Nat) :
    contents disk blockSize block length
      = start disk block (min blockSize length)
        ++ contents disk blockSize (block + 1) (length - blockSize) := by
  rw [contents, dif_pos more]

/-- Later blocks alone say what lies in them. -/
theorem contents_congr {disk other : RamDisk} {block : Nat}
    (same : ∀ later, block ≤ later →
      disk.kept later = other.kept later) (blockSize length : Nat) :
    contents disk blockSize block length
      = contents other blockSize block length := by
  fun_induction contents disk blockSize block length with
  | case1 block length more ih =>
    have first := start_congr (same block (Nat.le_refl _))
    have rest := ih fun later behind => same later (Nat.le_of_succ_le behind)
    rw [first, rest, contents_of_pos other more]
  | case2 block length none => rw [contents, dif_neg none]

/-- What was put into blocks is found there, whatever they held
before. -/
theorem contents_replaceAll {blockSize : Nat} (some : 0 < blockSize)
    (disk : RamDisk) (block : Nat) (data : Bytes) :
    contents (replaceAll disk blockSize block data) blockSize block
      data.length = data := by
  fun_induction replaceAll disk blockSize block data with
  | case1 disk block data more ih =>
    have long := List.length_pos_iff.mpr more.2
    -- The first block is written before the others, which leave it alone.
    have first := kept_replaceAll_of_lt
      (replace disk block (data.take blockSize)) blockSize (block + 1)
      (data.drop blockSize) (Nat.lt_succ_self block)
    rw [kept_replace, if_pos rfl] at first
    have whole := start_eq_kept
      (replaceAll (replace disk block (data.take blockSize)) blockSize
        (block + 1) (data.drop blockSize)) block
    rw [first, List.length_take] at whole
    rw [List.length_drop] at ih
    rw [contents_of_pos _ ⟨some, long⟩, whole, ih, List.take_append_drop]
  | case2 disk block data none =>
    have empty : data = [] := by
      by_cases empty : data = []
      · exact empty
      · exact absurd ⟨some, empty⟩ none
    rw [empty, contents, dif_neg (by simp)]

/-! ### Transfers within the blocks -/

/-- A device that can be read like a volume: a block takes the superblock,
there is one, and the device can tell all numbers and find all addresses. -/
structure Legible (geometry : Geometry) : Prop where
  header : Superblock.length ≤ geometry.blockSize
  one : 1 ≤ geometry.blockCount
  size : geometry.blockSize < sizeLimit
  count : geometry.blockCount < sizeLimit
  whole : geometry.blockCount * geometry.blockSize < wordLimit

namespace Legible

variable {geometry : Geometry}

theorem blockSize_pos (legible : Legible geometry) :
    0 < geometry.blockSize :=
  Nat.lt_of_lt_of_le (by decide) legible.header

/-- All blocks are those after the first one, and the first one. -/
theorem mul_eq (legible : Legible geometry) :
    geometry.blockCount * geometry.blockSize
      = geometry.capacity + geometry.blockSize := by
  have count := Nat.sub_add_cancel legible.one
  have blocks := Nat.succ_mul (geometry.blockCount - 1) geometry.blockSize
  rw [Nat.succ_eq_add_one, count] at blocks
  exact blocks

end Legible

/-- A device that can hold a volume: a block takes the superblock, there is
a block for the image, and the superblock can tell the geometry. -/
structure Readable (geometry : Geometry) : Prop where
  header : Superblock.length ≤ geometry.blockSize
  two : 2 ≤ geometry.blockCount
  size : geometry.blockSize < fieldLimit
  count : geometry.blockCount < fieldLimit

namespace Readable

variable {geometry : Geometry}

/-- Whatever the superblock can tell can be told and found. -/
theorem legible (readable : Readable geometry) : Legible geometry where
  header := readable.header
  one := Nat.le_of_succ_le readable.two
  size := Nat.lt_trans readable.size (by decide)
  count := Nat.lt_trans readable.count (by decide)
  whole := by
    have count := Nat.le_pred_of_lt readable.count
    have size := Nat.le_pred_of_lt readable.size
    exact Nat.lt_of_le_of_lt (Nat.mul_le_mul count size) (by decide)

theorem blockSize_pos (readable : Readable geometry) :
    0 < geometry.blockSize := readable.legible.blockSize_pos

theorem mul_eq (readable : Readable geometry) :
    geometry.blockCount * geometry.blockSize
      = geometry.capacity + geometry.blockSize := readable.legible.mul_eq

/-- All bytes of the blocks have an address. -/
theorem mul_lt (readable : Readable geometry) :
    geometry.blockCount * geometry.blockSize < wordLimit :=
  readable.legible.whole

end Readable

/-- A device on which a volume can be: a block takes the superblock, there
is a block for the image, and the numbers fit the superblock. -/
structure Suitable (geometry : Geometry) : Prop where
  header : Superblock.length ≤ geometry.blockSize
  two : 2 ≤ geometry.blockCount
  small : geometry.capacity < fieldLimit

namespace Suitable

variable {geometry : Geometry}

theorem blockSize_le_capacity (suitable : Suitable geometry) :
    geometry.blockSize ≤ geometry.capacity := by
  have one : 1 ≤ geometry.blockCount - 1 := by
    have := suitable.two
    omega
  have blocks := Nat.mul_le_mul_right geometry.blockSize one
  rw [Nat.one_mul] at blocks
  exact blocks

theorem blockCount_lt (suitable : Suitable geometry) :
    geometry.blockCount < fieldLimit := by
  have small := suitable.small
  have blocks := Nat.mul_le_mul_left (geometry.blockCount - 1)
    suitable.header
  rw [Geometry.capacity] at small
  simp only [Superblock.length, fieldLimit] at *
  omega

/-- Where all images are short enough for the superblock, so are the
numbers of the device. -/
theorem readable (suitable : Suitable geometry) : Readable geometry where
  header := suitable.header
  two := suitable.two
  size := Nat.lt_of_le_of_lt suitable.blockSize_le_capacity suitable.small
  count := suitable.blockCount_lt

theorem blockSize_pos (suitable : Suitable geometry) :
    0 < geometry.blockSize := suitable.readable.blockSize_pos

theorem mul_eq (suitable : Suitable geometry) :
    geometry.blockCount * geometry.blockSize
      = geometry.capacity + geometry.blockSize := suitable.readable.mul_eq

end Suitable

section

variable {disk after : RamDisk} {block length : Nat} {data : Bytes}

/-- A transfer within a block of the disk is on the disk. -/
theorem holds_of_lt (legible : Legible (geometryOf disk))
    (inside : block < (geometryOf disk).blockCount)
    (fits : length ≤ disk.blockSize) :
    disk.holds block 0 length = .ok true := by
  have whole : (block + 1) * disk.blockSize
      ≤ (geometryOf disk).blockCount * disk.blockSize :=
    Nat.mul_le_mul_right _ inside
  have onDisk : (geometryOf disk).blockCount * disk.blockSize ≤ disk.size :=
    Nat.div_mul_le_self _ _
  have all : (geometryOf disk).blockCount * disk.blockSize < wordLimit :=
    legible.whole
  have some : 0 < disk.blockSize := legible.blockSize_pos
  rw [Nat.succ_mul] at whole
  -- None of the sums passes the last address, so the disk does not stop.
  have stays : ¬ disk.blockSize < 0 + length := by omega
  have begins : ¬ wordLimit ≤ block * disk.blockSize + 0 := by omega
  have ends : ¬ wordLimit ≤ block * disk.blockSize + 0 + length := by
    omega
  have within : block * disk.blockSize + 0 + length ≤ disk.size := by
    omega
  simp only [RamDisk.holds, if_neg stays, if_neg begins, if_neg ends,
    decide_eq_true within]

/-- A read on the disk finds the first bytes of the block. -/
theorem run_read_of_holds (holds : disk.holds block 0 length = .ok true) :
    ∃ found, (RamDisk.read block 0 length).run disk
        = .ok (some found, disk)
      ∧ found.toList = start disk block length := by
  have run : (RamDisk.read block 0 length).run disk
      = (do
        if ← disk.holds block 0 length then
          return (some ⟨(start disk block length).toArray,
            by rw [List.size_toArray, length_start]⟩, disk)
        else return (none, disk)) := rfl
  rw [holds] at run
  exact ⟨_, run, rfl⟩

theorem run_write_eq_ok :
    (RamDisk.write block 0 data).run disk = .ok (true, after)
      ↔ disk.holds block 0 data.length = .ok true
        ∧ after = { disk with
            blocks := disk.blocks.insert block
              ((disk.kept block).splice 0 data) } := by
  have run : (RamDisk.write block 0 data).run disk
      = (do
        if ← disk.holds block 0 data.length then
          return (true, { disk with
            blocks := disk.blocks.insert block
              ((disk.kept block).splice 0 data) })
        else return (false, disk)) := rfl
  rw [run]
  cases disk.holds block 0 data.length with
  | error trap => simp [bind, Except.bind]
  | ok inside => cases inside <;> simp [bind, Except.bind, eq_comm, pure, Except.pure]

theorem run_erase_eq_ok {told : Int} (success : 0 ≤ told) :
    (RamDisk.control (.erase block)).run disk = .ok (told, after)
      ↔ disk.holds block 0 disk.blockSize = .ok true ∧ told = 0
        ∧ after = { disk with blocks := disk.blocks.erase block } := by
  have run : (RamDisk.control (.erase block)).run disk
      = (do
        if ← disk.holds block 0 disk.blockSize then
          return (0, { disk with blocks := disk.blocks.erase block })
        else return (-1, disk)) := rfl
  rw [run]
  cases disk.holds block 0 disk.blockSize with
  | error trap => simp [bind, Except.bind]
  | ok inside =>
    cases inside <;> simp [bind, Except.bind, eq_comm, pure, Except.pure]
    omega

/-- A block that has been erased and written holds what was written. -/
theorem insert_splice_erase (disk : RamDisk) (block : Nat) (data : Bytes) :
    let erased : RamDisk :=
      { disk with blocks := disk.blocks.erase block }
    { erased with
      blocks := erased.blocks.insert block
        ((erased.kept block).splice 0 data) } = replace disk block data := by
  intro erased
  have empty : erased.kept block = [] :=
    Std.ExtTreeMap.getD_erase_self
  have whole : Bytes.splice [] 0 data = data := by
    simp [Bytes.splice, zeros]
  rw [empty, whole]
  rfl

end

/-! ### Calls of a disk -/

/-- What lies within the blocks and is not empty starts in one of them. -/
theorem block_lt_of_le {block count blockSize length : Nat}
    (some : 0 < length)
    (inside : block * blockSize + length ≤ count * blockSize) :
    block < count := by
  have less : block * blockSize < count * blockSize := by omega
  exact Nat.lt_of_mul_lt_mul_right less

/-- And what goes on after that block lies within them too. -/
theorem next_le {block count blockSize length : Nat} (lower : block < count)
    (inside : block * blockSize + length ≤ count * blockSize) :
    (block + 1) * blockSize + (length - blockSize) ≤ count * blockSize := by
  have whole := Nat.mul_le_mul_right blockSize lower
  rw [Nat.succ_eq_add_one] at whole
  rw [Nat.succ_mul] at whole ⊢
  omega

section

variable {disk : RamDisk} (events : List Event)

/-- The geometry of a device that tells its numbers and is left alone by
the questions. -/
theorem run_geometry_of_told {σ : Type} [BlockDevice σ]
    {medium : Medium σ} {size count : Nat} (some : 0 < size)
    (toldSize : (BlockDevice.control .blockSize).run medium.device
      = .ok ((size : Int), medium.device))
    (toldCount : (BlockDevice.control .blockCount).run medium.device
      = .ok ((count : Int), medium.device)) :
    Medium.geometry.run medium = .done ⟨size, count⟩ medium := by
  have positive : (0 : Int) < size := Int.natCast_pos.mpr some
  have counted : (0 : Int) ≤ count := Int.natCast_nonneg count
  rw [Medium.run_geometry, BlockDevice.run_blockSize, toldSize]
  simp only [if_pos positive, BlockDevice.run_blockCount, toldCount,
    if_pos counted, Int.toNat_natCast]

/-- The numbers of a disk are told as they are if they are small enough. -/
theorem run_geometry (some : 0 < disk.blockSize)
    (size : disk.blockSize < sizeLimit)
    (few : disk.size / disk.blockSize < sizeLimit) :
    Medium.geometry.run ⟨disk, events⟩
      = .done (geometryOf disk) ⟨disk, events⟩ := by
  have toldSize : (BlockDevice.control .blockSize).run disk
      = .ok (signedWord disk.blockSize, disk) := rfl
  have toldCount : (BlockDevice.control .blockCount).run disk
      = if disk.blockSize = 0 then .error .zeroBlockSize
        else .ok (signedWord (disk.size / disk.blockSize), disk) := rfl
  -- Both numbers are less than half of all words, so none is negative.
  rw [signedWord_of_lt size] at toldSize
  rw [if_neg (Nat.ne_of_gt some), signedWord_of_lt few] at toldCount
  exact run_geometry_of_told some toldSize toldCount

/-- A disk has nothing to start, to write out or to shut down. -/
theorem run_idle {request : Control}
    (idle : request = .start ∨ request = .shutdown ∨ request = .sync) :
    (Medium.control request).run (⟨disk, events⟩ : Medium RamDisk)
      = .done () ⟨disk, events⟩ := by
  rcases idle with rfl | rfl | rfl <;> rfl

theorem run_readBlock (legible : Legible (geometryOf disk))
    {block length : Nat} (inside : block < (geometryOf disk).blockCount)
    (fits : length ≤ disk.blockSize) :
    (Medium.readBlock block length).run ⟨disk, events⟩
      = .done (start disk block length) ⟨disk, events⟩ := by
  obtain ⟨found, run, same⟩ :=
    run_read_of_holds (holds_of_lt legible inside fits)
  have run : (BlockDevice.read block 0 length).run disk
      = .ok (some found, disk) := run
  rw [Medium.run_readBlock, run, ← same]

theorem run_replaceBlock (readable : Readable (geometryOf disk))
    {block : Nat} {data : Bytes}
    (inside : block < (geometryOf disk).blockCount)
    (fits : data.length ≤ disk.blockSize) :
    (Medium.replaceBlock block data).run ⟨disk, events⟩
      = .done () ⟨replace disk block data, events⟩ := by
  have erase := (run_erase_eq_ok (Int.le_refl 0)).mpr
    ⟨holds_of_lt readable.legible inside (Nat.le_refl _), rfl, rfl⟩
  have erase : (BlockDevice.control (.erase block)).run disk
      = .ok (0, { disk with blocks := disk.blocks.erase block }) := erase
  have write := run_write_eq_ok.mpr
    ⟨show RamDisk.holds { disk with blocks := disk.blocks.erase block }
        block 0 data.length = .ok true from
      holds_of_lt readable.legible inside fits, rfl⟩
  rw [insert_splice_erase] at write
  have write : (BlockDevice.write block 0 data).run
        { disk with blocks := disk.blocks.erase block }
      = .ok (true, replace disk block data) := write
  simp only [Medium.run_replaceBlock, BlockDevice.run_eraseBlock, erase,
    Int.le_refl, decide_true, write]

/-- A byte string that lies within the blocks is read whole. -/
theorem run_readBlocks (legible : Legible (geometryOf disk))
    {block length : Nat}
    (inside : block * disk.blockSize + length
      ≤ (geometryOf disk).blockCount * disk.blockSize) (before : Bytes) :
    (Medium.readBlocks disk.blockSize block length before).run
        ⟨disk, events⟩
      = .done (before.reverse ++ contents disk disk.blockSize block length)
        ⟨disk, events⟩ := by
  fun_induction contents disk disk.blockSize block length generalizing
    before with
  | case1 block length more ih =>
    have lower : block < (geometryOf disk).blockCount :=
      block_lt_of_le more.2 inside
    -- What is left of the byte string starts in the block behind.
    have next := next_le lower inside
    have first := run_readBlock events legible lower
      (Nat.min_le_left disk.blockSize length)
    rw [Medium.readBlocks, dif_pos more, Action.run_bind, first]
    simp only [ih next, List.reverse_append, List.reverse_reverse,
      List.append_assoc]
  | case2 block length none =>
    rw [Medium.readBlocks, dif_neg none, List.append_nil]
    rfl

/-- A byte string that lies within the blocks is written whole. -/
theorem run_replaceBlocks (readable : Readable (geometryOf disk))
    {block : Nat} {data : Bytes}
    (inside : block * disk.blockSize + data.length
      ≤ (geometryOf disk).blockCount * disk.blockSize) :
    (Medium.replaceBlocks disk.blockSize block data).run ⟨disk, events⟩
      = .done () ⟨replaceAll disk disk.blockSize block data, events⟩ := by
  generalize size : disk.blockSize = blockSize at inside ⊢
  fun_induction replaceAll disk blockSize block data with
  | case1 disk block data more ih =>
    subst size
    have lower : block < (geometryOf disk).blockCount :=
      block_lt_of_le (List.length_pos_iff.mpr more.2) inside
    -- What is left of the byte string starts in the block behind.
    have next := next_le lower inside
    have first := run_replaceBlock events readable lower
      (List.length_take_le disk.blockSize data)
    rw [← List.length_drop] at next
    rw [Medium.replaceBlocks, dif_pos more, Action.run_bind, first]
    exact ih readable rfl next
  | case2 disk block data none =>
    rw [Medium.replaceBlocks, dif_neg none]
    rfl

end

end MountSpace.Proofs.Storage
