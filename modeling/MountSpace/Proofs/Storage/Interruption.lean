import MountSpace.Proofs.Image.RoundTrip
import MountSpace.Proofs.Storage.Calls
import MountSpace.Proofs.Storage.Content

/-!
# `MountSpace.Proofs.Storage.Interruption`: commits that break off

A commit writes the new image over the old one, block by block, and the
superblock last. If it breaks off, the image is partly the new one and
partly the old one, and the length is still that of the old one.

* `interrupted`: the bytes of such an image, and
  `imageOf_effects_replacing`: that these are found on the disk.
* `leftBehind`: the tree that is found after the first calls of a commit,
  if there is one (`treeOf_effects_committing`).
* `treeIn_interrupted_zero`, `treeIn_interrupted_last`: before the first
  call that is the old tree. After the last block of the image it is the
  new one if both images are equally long, and none if they are not.
-/

set_option autoImplicit false

namespace MountSpace.Proofs.Storage

open Effects Image Trees
open Bytes (zeros)

/-! ### The image on a disk -/

/-- The bytes of the image on a disk. -/
def imageOf (disk : RamDisk) : Except Fault Bytes :=
  if disk.blockSize < Superblock.length then .error .corrupted
  else do
    let superblock ← Superblock.decode (start disk 0 Superblock.length)
    if (geometryOf disk).Admits superblock then
      return contents disk disk.blockSize 1 superblock.imageLength.toNat
    else .error .corrupted

/-- The tree that an image stands for. -/
def treeIn (image : Bytes) : Except Fault Tree := do
  match ← Tree.decode image with
  | .directory entries => return .directory entries
  | .file _ => .error .corrupted

theorem treeOf_eq (disk : RamDisk) :
    treeOf disk = imageOf disk >>= treeIn := by
  rw [treeOf, imageOf]
  split
  · rfl
  · cases Superblock.decode (start disk 0 Superblock.length) with
    | error fault => rfl
    | ok superblock =>
      simp only [ok_bind]
      split
      · simp only [pure_bind, treeIn]
        cases Tree.decode (contents disk disk.blockSize 1
            superblock.imageLength.toNat) with
        | error fault => rfl
        | ok root => cases root <;> rfl
      · rfl

theorem treeIn_eq_ok_iff {image : Bytes} {root : Tree} :
    treeIn image = .ok root
      ↔ Tree.decode image = .ok root ∧ root.isDirectory = true := by
  rw [treeIn]
  cases Tree.decode image with
  | error fault => simp [error_bind]
  | ok found =>
    cases found with
    | file data =>
      simp only [ok_bind, reduceCtorEq, Except.ok.injEq, false_iff, not_and]
      rintro rfl
      simp [Tree.isDirectory]
    | directory entries =>
      simp only [ok_bind, pure, Except.pure, Except.ok.injEq]
      constructor
      · rintro rfl
        exact ⟨rfl, rfl⟩
      · exact And.left

/-! ### The first calls of a commit -/

/-- The number of blocks that so many bytes need. -/
def blocksFor (blockSize length : Nat) : Nat :=
  (length + blockSize - 1) / blockSize

/-- The bytes of an image after the first `n` calls that put a new image
over it. Every block takes two calls: one that erases it and one that
writes it. -/
def interrupted (blockSize n : Nat) (new old : Bytes) : Bytes :=
  old.mapIdx fun i byte =>
    if i / blockSize < n / 2 then new.getD i 0
    else if i / blockSize < (n + 1) / 2 then 0
    else byte

/-- The first block, and those for the rest. -/
theorem blocksFor_of_pos {blockSize length : Nat} (some : 0 < blockSize)
    (more : 0 < length) :
    blocksFor blockSize length
      = blocksFor blockSize (length - blockSize) + 1 := by
  have whole : length + blockSize - 1 = blockSize + (length - 1) := by omega
  rw [blocksFor, blocksFor, whole, Nat.add_div_left _ some]
  by_cases long : blockSize < length
  · congr 2
    omega
  · rw [Nat.div_eq_of_lt (by omega), Nat.div_eq_of_lt (by omega)]

theorem length_replacing {blockSize : Nat} (some : 0 < blockSize)
    (block : Nat) (data : Bytes) :
    (replacing blockSize block data).length
      = 2 * blocksFor blockSize data.length := by
  fun_induction replacing blockSize block data with
  | case1 block data more ih =>
    rw [List.length_cons, List.length_cons, ih, List.length_drop,
      blocksFor_of_pos some (List.length_pos_iff.mpr more.2)]
    omega
  | case2 block data none =>
    have empty : data = [] := by
      by_cases empty : data = []
      · exact empty
      · exact absurd ⟨some, empty⟩ none
    have few : 0 + blockSize - 1 < blockSize := by omega
    simp only [empty, blocksFor, List.length_nil, Nat.div_eq_of_lt few]

/-- Blocks before the first one are left alone. -/
theorem kept_effects_replacing_of_lt (disk : RamDisk)
    (blockSize block n : Nat) (data : Bytes) {other : Nat}
    (before : other < block) :
    (effects ((replacing blockSize block data).take n) disk).kept other
      = disk.kept other := by
  fun_induction replacing blockSize block data generalizing disk n with
  | case1 block data more ih =>
    obtain _ | _ | n := n
    · rfl
    · exact (kept_erase disk block other).trans
        (if_neg (Nat.ne_of_gt before))
    · have rest := ih (replace disk block (data.take blockSize)) n
        (Nat.lt_succ_of_lt before)
      rw [kept_replace, if_neg (Nat.ne_of_gt before),
        ← effects_replace] at rest
      exact rest
  | case2 block data none =>
    rw [List.take_nil]
    rfl

/-- What blocks hold after the first calls. -/
theorem kept_effects_replacing (disk : RamDisk) {blockSize block n : Nat}
    {data : Bytes} (few : n ≤ (replacing blockSize block data).length)
    (j : Nat) :
    (effects ((replacing blockSize block data).take n) disk).kept (block + j)
      = if j < n / 2 then (data.drop (j * blockSize)).take blockSize
        else if j < (n + 1) / 2 then []
        else disk.kept (block + j) := by
  fun_induction replacing blockSize block data generalizing disk n j with
  | case1 block data more ih =>
    obtain _ | _ | n := n
    · simp [effects]
    · refine (kept_erase disk block (block + j)).trans ?_
      cases j <;> simp
    · have same : effects (((.erase block
            :: .write block (data.take blockSize)
            :: replacing blockSize (block + 1) (data.drop blockSize)).take
              (n + 2))) disk
          = effects ((replacing blockSize (block + 1)
              (data.drop blockSize)).take n)
            (replace disk block (data.take blockSize)) := by
        rw [← effects_replace]
        rfl
      rw [same]
      cases j with
      | zero =>
        have first := kept_effects_replacing_of_lt
          (replace disk block (data.take blockSize)) blockSize (block + 1) n
          (data.drop blockSize) (Nat.lt_add_one block)
        rw [kept_replace, if_pos rfl] at first
        rw [if_pos (by omega), Nat.zero_mul]
        exact first
      | succ j =>
        have later := ih (replace disk block (data.take blockSize))
          (Nat.le_of_succ_le_succ (Nat.le_of_succ_le_succ few)) j
        have written : (n + 2) / 2 = n / 2 + 1 := by omega
        have erased : (n + 2 + 1) / 2 = (n + 1) / 2 + 1 := by omega
        have place : blockSize + j * blockSize = (j + 1) * blockSize := by
          rw [Nat.succ_mul, Nat.add_comm]
        have untouched : (replace disk block (data.take blockSize)).kept
            (block + 1 + j) = disk.kept (block + 1 + j) := by
          rw [kept_replace, if_neg (by omega)]
        rw [untouched, List.drop_drop, place,
          Nat.add_right_comm block 1 j] at later
        simp only [written, erased, Nat.add_lt_add_iff_right]
        exact later
  | case2 block data none =>
    have zero : n = 0 := Nat.le_zero.mp few
    simp [zero, effects]

/-- In bytes, the blocks hold partly the new image and partly the old
one. -/
theorem contents_effects_replacing (disk : RamDisk)
    {blockSize block n : Nat} {data : Bytes} (some : 0 < blockSize)
    (few : n ≤ (replacing blockSize block data).length) (length : Nat) :
    contents (effects ((replacing blockSize block data).take n) disk)
        blockSize block length
      = interrupted blockSize n data
        (contents disk blockSize block length) := by
  apply List.ext_getElem?
  intro i
  by_cases inside : i < length
  · rw [getElem?_contents some inside, kept_effects_replacing disk few,
      interrupted, List.getElem?_mapIdx, getElem?_contents some inside]
    simp only [Option.map_some]
    split
    · -- The place in the block leads back to the place in the image.
      have place : i / blockSize * blockSize + i % blockSize = i :=
        Nat.div_add_mod' i blockSize
      rw [List.getD_eq_getElem?_getD,
        List.getElem?_take_of_lt (Nat.mod_lt i some), List.getElem?_drop,
        place, List.getD_eq_getElem?_getD]
    · split <;> rfl
  · have past := Nat.not_lt.mp inside
    rw [List.getElem?_eq_none (by rwa [length_contents _ some]),
      List.getElem?_eq_none (by rwa [interrupted, List.length_mapIdx,
        length_contents _ some])]

/-! ### What is found on the disk -/

theorem imageOf_eq_ok {disk : RamDisk} {image : Bytes}
    (found : imageOf disk = .ok image) :
    Superblock.length ≤ disk.blockSize
      ∧ ∃ superblock, Superblock.decode (start disk 0 Superblock.length)
          = .ok superblock
        ∧ (geometryOf disk).Admits superblock
        ∧ image = contents disk disk.blockSize 1
          superblock.imageLength.toNat := by
  rw [imageOf] at found
  split at found
  · nomatch found
  · next wide =>
    obtain ⟨superblock, first, found⟩ := bind_eq_ok_iff.mp found
    split at found
    · next admits =>
      cases found
      exact ⟨Nat.not_lt.mp wide, superblock, first, admits, rfl⟩
    · nomatch found

/-- A disk with a tree is one that can hold a volume. -/
theorem readable_of_imageOf {disk : RamDisk} {image : Bytes} {root : Tree}
    (found : imageOf disk = .ok image) (stands : treeIn image = .ok root) :
    Readable (geometryOf disk) := by
  obtain ⟨header, superblock, _, ⟨size, count, short⟩, rfl⟩ :=
    imageOf_eq_ok found
  refine ⟨header, ?_, size ▸ superblock.blockSize.toNat_lt,
    count ▸ superblock.blockCount.toNat_lt⟩
  -- With a single block there is no room for the image of any tree.
  refine Nat.le_of_not_lt fun few => ?_
  have none : (geometryOf disk).capacity = 0 := by
    have one : (geometryOf disk).blockCount - 1 = 0 := by omega
    rw [Geometry.capacity, one, Nat.zero_mul]
  have empty : superblock.imageLength.toNat = 0 := by omega
  rw [empty, contents, dif_neg (by simp)] at stands
  cases stands

/-- As long as the first block is left alone the old superblock stands. -/
theorem imageOf_effects_replacing {disk : RamDisk} {old data : Bytes}
    {n : Nat} (found : imageOf disk = .ok old)
    (few : n ≤ (replacing disk.blockSize 1 data).length) :
    imageOf (effects ((replacing disk.blockSize 1 data).take n) disk)
      = .ok (interrupted disk.blockSize n data old) := by
  obtain ⟨header, superblock, first, admits, rfl⟩ := imageOf_eq_ok found
  have some : 0 < disk.blockSize := Nat.lt_of_lt_of_le (by decide) header
  have geometry := geometryOf_effects
    ((replacing disk.blockSize 1 data).take n) disk
  have size := congrArg Geometry.blockSize geometry
  have same := start_congr (kept_effects_replacing_of_lt disk disk.blockSize
    1 n data Nat.one_pos) Superblock.length
  have mixed := contents_effects_replacing disk some few
    superblock.imageLength.toNat
  have size : (effects ((replacing disk.blockSize 1 data).take n)
      disk).blockSize = disk.blockSize := size
  rw [imageOf, size, if_neg (Nat.not_lt.mpr header), same, first, geometry,
    ok_bind, if_pos admits, mixed]
  rfl

/-- Without a superblock nothing is found. -/
theorem imageOf_erase (disk : RamDisk) :
    imageOf ((Work.erase 0).effect disk) = .error .corrupted := by
  have none : ((Work.erase 0).effect disk).kept 0 = [] :=
    (kept_erase disk 0 0).trans (if_pos rfl)
  have blank : start ((Work.erase 0).effect disk) 0 Superblock.length
      = zeros Superblock.length := by
    rw [start, none]
    rfl
  rw [imageOf, blank]
  split
  · rfl
  · rfl

/-- What is found after the first `n` calls of a commit of a tree, if the
image was another one before. -/
def leftBehind (blockSize : Nat) (root : Tree) (old : Bytes) (n : Nat) :
    Except Fault Tree :=
  let last := 2 * blocksFor blockSize root.encode.length
  if n ≤ last then treeIn (interrupted blockSize n root.encode old)
  -- The superblock is erased, and then written.
  else if n = last + 1 then .error .corrupted
  else .ok root

theorem length_committing {geometry : Geometry}
    (some : 0 < geometry.blockSize) (root : Tree) :
    (committing geometry root).length
      = 2 * blocksFor geometry.blockSize root.encode.length + 3 := by
  rw [committing, List.length_append, length_replacing some]
  rfl

/-- The calls of a commit leave this on the disk. -/
theorem treeOf_effects_committing {disk : RamDisk} {root : Tree}
    {old : Bytes} {n : Nat} (readable : Readable (geometryOf disk))
    (isRoot : IsRoot root) (found : imageOf disk = .ok old)
    (few : n < (committing (geometryOf disk) root).length)
    (fits : (replacing disk.blockSize 1 root.encode).length ≤ n →
      root.encode.length ≤ (geometryOf disk).capacity
        ∧ root.encode.length < fieldLimit) :
    treeOf (effects ((committing (geometryOf disk) root).take n) disk)
      = leftBehind disk.blockSize root old n := by
  have some : 0 < disk.blockSize := readable.blockSize_pos
  have length := length_replacing some 1 root.encode
  have all : (committing (geometryOf disk) root).length
      = (replacing disk.blockSize 1 root.encode).length + 3 :=
    List.length_append
  have size : (geometryOf disk).blockSize = disk.blockSize := rfl
  simp only [leftBehind, ← length]
  by_cases early : n ≤ (replacing disk.blockSize 1 root.encode).length
  · rw [if_pos early, committing, size,
      List.take_append_of_le_length early, treeOf_eq,
      imageOf_effects_replacing found early]
    rfl
  · -- From here on all blocks of the image hold the new one.
    have written (more : Nat) :
        effects ((committing (geometryOf disk) root).take
            ((replacing disk.blockSize 1 root.encode).length + more)) disk
          = effects ((heading (superblockOf (geometryOf disk)
              root.encode.length)).take more)
            (replaceAll disk disk.blockSize 1 root.encode) := by
      rw [committing, size, List.take_length_add_append, effects_append,
        effects_replacing]
    rw [if_neg early]
    by_cases erased : n = (replacing disk.blockSize 1 root.encode).length + 1
    · rw [if_pos erased, erased, written, treeOf_eq]
      show imageOf ((Work.erase 0).effect _) >>= treeIn = _
      rw [imageOf_erase]
      rfl
    · have last :
          n = (replacing disk.blockSize 1 root.encode).length + 2 := by omega
      obtain ⟨within, short⟩ := fits (by omega)
      rw [if_neg erased, last, written]
      show treeOf (effects [.erase 0, .write 0 (superblockOf _ _).encode] _)
        = _
      rw [effects_replace]
      exact treeOf_stored readable isRoot within short

/-! ### Commits that break off early or late -/

/-- Before the first call everything is as it was. -/
theorem interrupted_zero (blockSize : Nat) (new old : Bytes) :
    interrupted blockSize 0 new old = old := by
  apply List.ext_getElem?
  intro i
  simp [interrupted]

/-- After the last block of the image, nothing but the length is old. -/
theorem take_interrupted_last {blockSize : Nat} (some : 0 < blockSize)
    (new old : Bytes) :
    (interrupted blockSize (2 * blocksFor blockSize new.length) new old).take
        new.length
      = new.take old.length := by
  apply List.ext_getElem?
  intro i
  by_cases inside : i < new.length
  · have block : i / blockSize < blocksFor blockSize new.length := by
      have down := Nat.div_mul_le_self i blockSize
      rw [blocksFor, Nat.lt_iff_add_one_le, Nat.le_div_iff_mul_le some,
        Nat.succ_mul]
      omega
    rw [List.getElem?_take_of_lt inside, interrupted, List.getElem?_mapIdx,
      Nat.mul_div_cancel_left _ Nat.two_pos]
    simp only [if_pos block]
    by_cases old' : i < old.length
    · rw [List.getElem?_take_of_lt old', List.getElem?_eq_getElem old',
        List.getD_eq_getElem?_getD, List.getElem?_eq_getElem inside]
      rfl
    · rw [List.getElem?_eq_none (Nat.not_lt.mp old'),
        List.getElem?_eq_none (by rw [List.length_take]; omega)]
      rfl
  · rw [List.getElem?_eq_none (by rw [List.length_take]; omega),
      List.getElem?_eq_none (by rw [List.length_take]; omega)]

/-- The new image is found under the old length only if that is its own. -/
theorem treeIn_interrupted_last {blockSize : Nat} (some : 0 < blockSize)
    {root : Tree} (isRoot : IsRoot root)
    (short : root.encode.length < fieldLimit) (old : Bytes) :
    treeIn (interrupted blockSize
        (2 * blocksFor blockSize root.encode.length) root.encode old)
      = if root.encode.length = old.length then .ok root
        else .error .corrupted := by
  have written := (isImage_encode isRoot.formed short).mono
    fun _ => Ascending.nodup
  have taken := take_interrupted_last some root.encode old
  have length : (interrupted blockSize
      (2 * blocksFor blockSize root.encode.length) root.encode old).length
      = old.length := List.length_mapIdx
  generalize interrupted blockSize
    (2 * blocksFor blockSize root.encode.length) root.encode old = image
    at taken length ⊢
  split
  · next same =>
    rw [← same, List.take_length, same, ← length, List.take_length] at taken
    rw [taken]
    exact treeIn_eq_ok_iff.mpr ⟨decode_eq_ok_iff.mpr written, isRoot.directory⟩
  · next other =>
    have none (tree : Tree) : ¬ IsImage List.Nodup image tree := by
      intro found
      -- The shorter one of the two is the beginning of the longer one.
      rcases Nat.le_total image.length root.encode.length with less | more
      · have front := List.take_prefix old.length root.encode
        rw [← taken, List.take_of_length_le less] at front
        have same := found.eq_of_prefix written front
        exact other (by rw [← length, same])
      · have front := List.take_prefix root.encode.length image
        rw [taken, List.take_of_length_le (by omega)] at front
        have same := written.eq_of_prefix found front
        exact other (by rw [← length, ← same])
    rw [treeIn, decode_eq_error_iff.mpr ⟨rfl, none⟩]
    rfl

end MountSpace.Proofs.Storage
