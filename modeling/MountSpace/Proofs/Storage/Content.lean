import MountSpace.Proofs.Storage.Disk

/-!
# `MountSpace.Proofs.Storage.Content`: a disk as one byte string

A disk keeps of each block only its first bytes. `content` is all that it
holds: one byte string, block after block.

* `window_content`: what is kept of a block is a part of the content.
* `contents_eq_window`: so is a byte string that lies in successive blocks.
* `content_insert_splice`, `content_erase`: to write to a block or to erase
  it is to put bytes over a part of the content.
* `Whole`: the disks that can be made. `content_ofBytes`: a new disk holds
  the bytes it is made of.
-/

set_option autoImplicit false

namespace MountSpace.Proofs.Storage

open Bytes (zeros)

/-! ### Bytes in blocks -/

/-- Behind the end of a byte string there are zeros. -/
theorem getElem?_filled {data : Bytes} {length i : Nat} (inside : i < length) :
    (data.take length ++ zeros (length - (data.take length).length))[i]?
      = some (data.getD i 0) := by
  rw [List.getElem?_append, List.length_take, List.getD_eq_getElem?_getD]
  split
  · rw [List.getElem?_take_of_lt inside, List.getElem?_eq_getElem (by omega)]
    rfl
  · rw [List.getElem?_eq_none (show data.length ≤ i by omega), zeros,
      List.getElem?_replicate, if_pos (by omega)]
    rfl

/-- What is not kept is zero. -/
theorem getElem?_start {disk : RamDisk} {block length i : Nat}
    (inside : i < length) :
    (start disk block length)[i]? = some ((disk.kept block).getD i 0) :=
  getElem?_filled inside

/-- Each byte lies in the block that its place leads to. -/
theorem getElem?_contents {disk : RamDisk} {blockSize block length i : Nat}
    (some : 0 < blockSize) (inside : i < length) :
    (contents disk blockSize block length)[i]?
      = .some ((disk.kept (block + i / blockSize)).getD
        (i % blockSize) 0) := by
  fun_induction contents disk blockSize block length generalizing i with
  | case1 block length more ih =>
    rw [List.getElem?_append, length_start]
    by_cases first : i < blockSize
    · rw [if_pos (by omega), getElem?_start (by omega),
        Nat.div_eq_of_lt first, Nat.mod_eq_of_lt first, Nat.add_zero]
    · obtain ⟨k, rfl⟩ := Nat.exists_eq_add_of_le (Nat.not_lt.mp first)
      have shorter : blockSize + k - min blockSize length = k := by omega
      rw [if_neg (by omega), shorter, ih (by omega), Nat.add_div_left k some,
        Nat.add_mod_left, Nat.add_right_comm block 1]
      rfl
  | case2 block length none => omega

theorem length_contents (disk : RamDisk) {blockSize : Nat}
    (some : 0 < blockSize) (block length : Nat) :
    (contents disk blockSize block length).length = length := by
  fun_induction contents disk blockSize block length with
  | case1 block length more ih =>
    rw [List.length_append, length_start, ih]
    omega
  | case2 block length none =>
    show 0 = length
    omega

/-- A byte that is written over is the new one, and all others are the old
ones, be they kept or not. -/
theorem getD_splice (data piece : Bytes) (start i : Nat) :
    (data.splice start piece).getD i 0
      = if start ≤ i ∧ i < start + piece.length then piece.getD (i - start) 0
        else data.getD i 0 := by
  simp only [List.getD_eq_getElem?_getD]
  by_cases long : start + piece.length ≤ data.length
  · rw [Bytes.getElem?_splice long]
    split <;> rfl
  · rw [Bytes.splice, zeros, ← List.append_assoc, List.getElem?_append,
      List.length_append, List.length_take, List.length_replicate]
    have place : min start data.length + (start - data.length) = start := by
      omega
    rw [place]
    by_cases early : i < start
    · -- Before the piece are the old bytes, and zeros behind their end.
      rw [if_pos early, if_neg (by omega), List.getElem?_append,
        List.length_take]
      by_cases old : i < data.length
      · rw [if_pos (by omega), List.getElem?_take_of_lt early]
      · rw [if_neg (by omega), List.getElem?_replicate, if_pos (by omega),
          List.getElem?_eq_none (Nat.not_lt.mp old)]
        rfl
    · rw [if_neg early, List.getElem?_append]
      by_cases inside : i < start + piece.length
      · rw [if_pos (by omega), if_pos (by omega)]
      · rw [if_neg (by omega), if_neg (by omega), List.getElem?_drop,
          List.getElem?_eq_none (by omega), List.getElem?_eq_none (by omega)]

/-! ### All bytes of a disk -/

/-- The bytes of a disk, block after block. -/
def content (disk : RamDisk) : Bytes :=
  contents disk disk.blockSize 0 disk.size

section

variable {disk : RamDisk}

theorem length_content (some : 0 < disk.blockSize) :
    (content disk).length = disk.size :=
  length_contents disk some 0 disk.size

theorem getElem?_content (some : 0 < disk.blockSize) {i : Nat}
    (inside : i < disk.size) :
    (content disk)[i]?
      = .some ((disk.kept (i / disk.blockSize)).getD
        (i % disk.blockSize) 0) := by
  rw [content, getElem?_contents some inside, Nat.zero_add]

/-- The place of a byte of a block in the whole content. -/
theorem div_mod_of_lt {blockSize offset : Nat} (block : Nat)
    (inside : offset < blockSize) :
    (block * blockSize + offset) / blockSize = block
      ∧ (block * blockSize + offset) % blockSize = offset := by
  constructor
  · rw [Nat.mul_comm, Nat.mul_add_div (by omega), Nat.div_eq_of_lt inside,
      Nat.add_zero]
  · rw [Nat.mul_comm, Nat.mul_add_mod, Nat.mod_eq_of_lt inside]

/-- What is kept of a block, and the zeros behind it, are a part of the
content. -/
theorem window_content {block offset length : Nat}
    (stays : offset + length ≤ disk.blockSize)
    (inside : block * disk.blockSize + offset + length ≤ disk.size) :
    (content disk).window (block * disk.blockSize + offset) length
      = (disk.kept block).window offset length
        ++ zeros
          (length - ((disk.kept block).window offset length).length) := by
  apply List.ext_getElem?
  intro i
  by_cases short : i < length
  · have some : 0 < disk.blockSize := by omega
    obtain ⟨number, place⟩ := div_mod_of_lt block
      (by omega : offset + i < disk.blockSize)
    rw [Bytes.window, Bytes.window, getElem?_filled short,
      List.getElem?_take_of_lt short, List.getElem?_drop,
      getElem?_content some (by omega), Nat.add_assoc, number, place,
      List.getD_eq_getElem?_getD, List.getD_eq_getElem?_getD,
      List.getElem?_drop]
  · rw [List.getElem?_eq_none, List.getElem?_eq_none]
    · simp only [zeros, List.length_append, List.length_replicate,
        Bytes.window, List.length_take]
      omega
    · rw [Bytes.window, List.length_take]
      omega

/-- The first bytes of a block are a part of the content. -/
theorem start_eq_window {block length : Nat} (stays : length ≤ disk.blockSize)
    (inside : block * disk.blockSize + length ≤ disk.size) :
    start disk block length
      = (content disk).window (block * disk.blockSize) length :=
  (@window_content disk block 0 length (by omega) inside).symm

/-- So are bytes that lie in successive blocks. -/
theorem contents_eq_window (some : 0 < disk.blockSize) {block length : Nat}
    (inside : block * disk.blockSize + length ≤ disk.size) :
    contents disk disk.blockSize block length
      = (content disk).window (block * disk.blockSize) length := by
  apply List.ext_getElem?
  intro i
  by_cases short : i < length
  · rw [getElem?_contents some short, Bytes.window,
      List.getElem?_take_of_lt short, List.getElem?_drop,
      getElem?_content some (by omega), Nat.mul_comm,
      Nat.mul_add_div some, Nat.mul_add_mod]
  · rw [List.getElem?_eq_none, List.getElem?_eq_none]
    · rw [Bytes.window, List.length_take]
      omega
    · rw [length_contents disk some]
      omega

/-! ### Changes of one block -/

/-- If a block is kept with other bytes over a part of it, they are over a
part of the content. -/
theorem content_of_kept (some : 0 < disk.blockSize) {after : RamDisk}
    {block offset : Nat} {piece : Bytes} (size : after.size = disk.size)
    (blockSize : after.blockSize = disk.blockSize)
    (same : ∀ other, other ≠ block → after.kept other = disk.kept other)
    (changed : ∀ i < disk.blockSize, (after.kept block).getD i 0
      = ((disk.kept block).splice offset piece).getD i 0)
    (stays : offset + piece.length ≤ disk.blockSize)
    (inside : block * disk.blockSize + offset + piece.length ≤ disk.size) :
    content after
      = (content disk).splice (block * disk.blockSize + offset) piece := by
  have someAfter : 0 < after.blockSize := by rwa [blockSize]
  have long := length_content some
  have longAfter := length_content someAfter
  apply List.ext_getElem?
  intro i
  rw [Bytes.getElem?_splice (by omega)]
  by_cases short : i < disk.size
  · have place := Nat.mod_lt i some
    have whole := Nat.div_add_mod i disk.blockSize
    rw [Nat.mul_comm] at whole
    rw [getElem?_content someAfter (by omega), getElem?_content some short,
      blockSize]
    by_cases here : i / disk.blockSize = block
    · -- In this block it is a matter of the place within the block.
      rw [here] at whole ⊢
      rw [changed _ place, getD_splice]
      generalize i % disk.blockSize = rest at *
      by_cases covered : offset ≤ rest ∧ rest < offset + piece.length
      · have index : i - (block * disk.blockSize + offset) = rest - offset := by
          omega
        rw [if_pos covered, if_pos (by omega), List.getD_eq_getElem?_getD,
          index, List.getElem?_eq_getElem (by omega)]
        rfl
      · rw [if_neg covered, if_neg (by omega)]
    · rw [same _ here, if_neg]
      -- A part of one block has no byte of another one.
      rintro ⟨behind, before⟩
      obtain ⟨k, rfl⟩ := Nat.exists_eq_add_of_le
        (Nat.le_trans (Nat.le_add_right _ offset) behind)
      exact here (div_mod_of_lt block (by omega)).1
  · rw [List.getElem?_eq_none (by omega), if_neg (by omega),
      List.getElem?_eq_none (by omega)]

theorem kept_insert (disk : RamDisk) (block other : Nat) (data : Bytes) :
    RamDisk.kept { disk with blocks := disk.blocks.insert block data } other
      = if block = other then data else disk.kept other := by
  simp only [RamDisk.kept, Std.ExtTreeMap.getD_insert, Nat.compare_eq_eq]

theorem kept_erase (disk : RamDisk) (block other : Nat) :
    RamDisk.kept { disk with blocks := disk.blocks.erase block } other
      = if block = other then [] else disk.kept other := by
  simp only [RamDisk.kept, Nat.compare_eq_eq, Std.ExtTreeMap.getD_erase]

/-- To write to a block is to write over a part of the content. -/
theorem content_insert_splice (some : 0 < disk.blockSize)
    {block offset : Nat} {data : Bytes}
    (stays : offset + data.length ≤ disk.blockSize)
    (inside : block * disk.blockSize + offset + data.length ≤ disk.size) :
    content { disk with
        blocks := disk.blocks.insert block
          ((disk.kept block).splice offset data) }
      = (content disk).splice (block * disk.blockSize + offset) data := by
  refine content_of_kept some rfl rfl (fun other different => ?_)
    (fun i _ => ?_) stays inside
  · rw [kept_insert, if_neg (Ne.symm different)]
  · rw [kept_insert, if_pos rfl]

/-- To erase a block is to write zeros over it. -/
theorem content_erase (some : 0 < disk.blockSize) {block : Nat}
    (inside : block * disk.blockSize + disk.blockSize ≤ disk.size) :
    content { disk with blocks := disk.blocks.erase block }
      = (content disk).splice (block * disk.blockSize)
        (zeros disk.blockSize) := by
  have length : (zeros disk.blockSize).length = disk.blockSize :=
    List.length_replicate
  refine @content_of_kept disk some _ block 0 (zeros disk.blockSize) rfl rfl
    (fun other different => ?_) (fun i short => ?_) (by omega) (by omega)
  · rw [kept_erase, if_neg (Ne.symm different)]
  · have zero : (zeros disk.blockSize).getD (i - 0) 0 = 0 := by
      rw [zeros, List.getD_eq_getElem?_getD, List.getElem?_replicate,
        if_pos (by omega)]
      rfl
    rw [kept_erase, if_pos rfl, getD_splice, if_pos (by omega), zero]
    rfl

end

/-! ### Disks that can be made -/

/-- A disk as it can be made: its blocks are not empty and their length is a
machine word, all of them are whole, and no byte string is longer than the
disk can be. -/
structure Whole (disk : RamDisk) : Prop where
  some : 0 < disk.blockSize
  word : disk.blockSize < wordLimit
  divides : disk.blockSize ∣ disk.size
  small : disk.size < sizeLimit

section

variable {disk : RamDisk} {blockSize : Nat}

/-- What is kept of the blocks of a disk that is made of bytes. -/
theorem getD_fill (some : 0 < blockSize) (block : Nat) (data : Bytes)
    (blocks : Std.ExtTreeMap Nat Bytes) (j : Nat) :
    (RamDisk.fill blockSize block data blocks).getD j []
      = if block ≤ j ∧ (j - block) * blockSize < data.length
        then (data.drop ((j - block) * blockSize)).take blockSize
        else blocks.getD j [] := by
  fun_induction RamDisk.fill blockSize block data blocks with
  | case1 block data blocks more _ ih =>
    have long := List.length_pos_iff.mpr more.2
    rw [ih, List.length_drop]
    by_cases later : block + 1 ≤ j
    · obtain ⟨k, rfl⟩ := Nat.exists_eq_add_of_le later
      have index : block + 1 + k - block = k + 1 := by omega
      have other : ¬compare block (block + 1 + k) = .eq := by
        rw [Nat.compare_eq_eq]
        omega
      rw [index, Nat.add_sub_cancel_left, List.drop_drop, Nat.succ_mul,
        Std.ExtTreeMap.getD_insert, if_neg other,
        Nat.add_comm blockSize (k * blockSize)]
      by_cases inside : k * blockSize + blockSize < data.length
      · rw [if_pos ⟨later, by omega⟩, if_pos ⟨by omega, inside⟩]
      · rw [if_neg (by omega), if_neg (by omega)]
    · rw [if_neg (by omega), Std.ExtTreeMap.getD_insert]
      by_cases here : block = j
      · subst here
        rw [Nat.sub_self, Nat.zero_mul, if_pos (by simp),
          if_pos ⟨Nat.le_refl _, long⟩, List.drop_zero]
      · rw [if_neg (by simpa using here), if_neg (by omega)]
  | case2 block data blocks none =>
    have empty : data = [] := by
      by_cases empty : data = []
      · exact empty
      · exact absurd ⟨some, empty⟩ none
    rw [empty, if_neg (by simp)]

/-- A disk that is made of bytes holds them, up to the last whole block. -/
theorem content_ofBytes {data : Bytes} (word : blockSize < wordLimit)
    (small : data.length < sizeLimit)
    (made : RamDisk.ofBytes data blockSize = .ok disk) :
    Whole disk ∧ content disk
      = data.take (data.length - data.length % blockSize) := by
  rw [RamDisk.ofBytes] at made
  by_cases zero : blockSize = 0
  · rw [if_pos zero] at made
    cases made
  have some : 0 < blockSize := Nat.pos_of_ne_zero zero
  rw [if_neg zero] at made
  generalize whole : data.length - data.length % blockSize = size at made ⊢
  cases made
  have short : size ≤ data.length := by omega
  have divides : blockSize ∣ size := by
    rw [← whole]
    exact Nat.dvd_sub_mod data.length
  refine ⟨⟨some, word, divides, Nat.lt_of_le_of_lt short small⟩, ?_⟩
  apply List.ext_getElem?
  intro i
  by_cases inside : i < size
  · have place := Nat.mod_lt i some
    have index := Nat.div_add_mod i blockSize
    rw [Nat.mul_comm] at index
    have taken : (data.take size).length = size := by
      rw [List.length_take]
      omega
    rw [@getElem?_content ⟨size, blockSize, _⟩ some i inside]
    show Option.some ((RamDisk.kept ⟨size, blockSize, _⟩ (i / blockSize)).getD
      (i % blockSize) 0) = _
    rw [RamDisk.kept, getD_fill some, Nat.sub_zero, taken,
      if_pos ⟨Nat.zero_le _, by omega⟩, List.getD_eq_getElem?_getD,
      List.getElem?_take_of_lt place, List.getElem?_drop, index,
      List.getElem?_eq_getElem (by omega)]
    rfl
  · rw [List.getElem?_eq_none, List.getElem?_eq_none]
    · rw [List.length_take]
      omega
    · rw [@length_content ⟨size, blockSize, _⟩ some]
      exact Nat.not_lt.mp inside

end

end MountSpace.Proofs.Storage
