import MountSpace.Proofs.Storage.Bounds

/-!
# `MountSpace.Proofs.Storage.LastWrites`: a disk as independent blocks

What a byte of a disk is after many calls. A history tells which accesses
were made and how each was answered; `lastPut` is the byte that the last
successful write or erasure in it put at a place of a block, if there was
one.

* `getElem?_content_splice`: bytes put over a part of one block are at no
  place of another one.
* `accessed_of_small`: what one access does.
* `getElem?_content_of_run`: after any accesses each byte is the one put
  there last, or the one that was there at the start.
* `reads_last_put`: so that is what is read. An access leaves the other
  blocks alone, one that fails leaves everything alone, and none changes the
  size of the disk.
-/

set_option autoImplicit false

namespace MountSpace.Proofs.Storage

open Bytes (zeros)

/-! ### Accesses and histories -/

/-- A call of a disk that is about a part of one block. -/
inductive Access where
  | read (block offset length : Nat)
  | write (block offset : Nat) (data : Bytes)
  | erase (block : Nat)
  deriving DecidableEq, Repr

namespace Access

/-- The block that an access is about. -/
def block : Access → Nat
  | read block _ _ | write block _ _ | erase block => block

/-- The number of bytes from the start of the block to the end of the part
that an access is about. -/
def stop (blockSize : Nat) : Access → Nat
  | read _ offset length => offset + length
  | write _ offset data => offset + data.length
  | erase _ => blockSize

/-- The end of the part is an address. -/
def Small (blockSize : Nat) (access : Access) : Prop :=
  access.block * blockSize + access.stop blockSize < wordLimit

instance (blockSize : Nat) : DecidablePred (Small blockSize) :=
  fun _ => inferInstanceAs (Decidable (_ < _))

/-- Makes an access. The answer of one that succeeds is what was read, which
is nothing for writes and erasures. -/
def perform : Access → Call RamDisk (Option Bytes)
  | read block offset length => do
    let found ← BlockDevice.read block offset length
    return found.map Vector.toList
  | write block offset data => do
    let done ← BlockDevice.write block offset data
    return if done then some [] else none
  | erase block => do
    let done ← BlockDevice.eraseBlock block
    return if done then some [] else none

/-- The byte that an access puts at a place of a block if it succeeds. -/
def put? (access : Access) (block position : Nat) : Option UInt8 :=
  match access with
  | read _ _ _ => none
  | write target offset data =>
    if block = target ∧ offset ≤ position then data[position - offset]?
    else none
  | erase target => if block = target then some 0 else none

end Access

/-- An access that was made, and its answer. -/
structure Record where
  access : Access
  answer : Option Bytes
  deriving DecidableEq, Repr

/-- The byte that was put at a place of a block: a failed access puts none
there. -/
def Record.put? (record : Record) (block position : Nat) : Option UInt8 :=
  if record.answer.isSome then record.access.put? block position else none

/-- Makes one access after the other, and answers the history. -/
def performAll : List Access → Call RamDisk (List Record)
  | [] => pure []
  | access :: later => do
    let answer ← access.perform
    let history ← performAll later
    return ⟨access, answer⟩ :: history

/-- The byte that was put last at a place of a block. -/
def lastPut (block position : Nat) : List Record → Option UInt8
  | [] => none
  | record :: later =>
    (lastPut block position later).or (record.put? block position)

/-! ### Places in blocks -/

section

variable {blockSize block other offset length position : Nat}

/-- No place of another block lies in a part of a block. -/
theorem mem_part_iff (stays : offset + length ≤ blockSize)
    (inside : position < blockSize) :
    block * blockSize + offset ≤ other * blockSize + position
        ∧ other * blockSize + position < block * blockSize + offset + length
      ↔ other = block ∧ offset ≤ position ∧ position < offset + length := by
  constructor
  · rintro ⟨behind, before⟩
    obtain ⟨k, place⟩ := Nat.exists_eq_add_of_le
      (Nat.le_trans (Nat.le_add_right _ offset) behind)
    have same : other = block := by
      rw [← (div_mod_of_lt other inside).1, place]
      exact (div_mod_of_lt block (by omega)).1
    subst same
    omega
  · rintro ⟨rfl, _, _⟩
    omega

end

section

variable {disk : RamDisk} {block other offset position : Nat}

/-- Bytes put over a part of a block are at no place of another one. -/
theorem getElem?_content_splice {data : Bytes}
    (within : Within disk block offset data.length)
    (inside : position < disk.blockSize) :
    ((content disk).splice (block * disk.blockSize + offset)
        data)[other * disk.blockSize + position]?
      = if other = block ∧ offset ≤ position
          ∧ position < offset + data.length
        then data[position - offset]?
        else (content disk)[other * disk.blockSize + position]? := by
  have long : (content disk).length = disk.size :=
    length_content (Nat.zero_lt_of_lt inside)
  rw [Bytes.getElem?_splice (by rw [long]; exact within.inside)]
  simp only [mem_part_iff within.stays inside]
  by_cases covered : other = block ∧ offset ≤ position
      ∧ position < offset + data.length
  · rw [if_pos covered, if_pos covered, covered.1, Nat.add_sub_add_left]
  · rw [if_neg covered, if_neg covered]

/-! ### One access -/

/-- Up to the last address the check of a disk is right. -/
theorem holds_of_small {length : Nat}
    (small : block * disk.blockSize + (offset + length) < wordLimit) :
    ∃ answer, disk.holds block offset length = .ok answer
      ∧ (answer = true ↔ Within disk block offset length) := by
  by_cases stays : disk.blockSize < offset + length
  · refine ⟨false, if_pos stays, iff_of_false Bool.false_ne_true ?_⟩
    exact fun within => absurd within.stays (Nat.not_le.mpr stays)
  · refine ⟨decide (block * disk.blockSize + offset + length ≤ disk.size),
      ?_, ?_⟩
    · rw [RamDisk.holds, if_neg stays, if_neg (by omega), if_neg (by omega)]
    · rw [decide_eq_true_iff]
      exact ⟨fun inside => ⟨Nat.not_lt.mp stays, inside⟩, Within.inside⟩

/-- A call that first checks a transfer up to the last address is done or
fails. -/
theorem run_of_small {α : Type} {length : Nat} {answer failed : α}
    {after : RamDisk} (call : Call RamDisk α)
    (small : block * disk.blockSize + (offset + length) < wordLimit)
    (run : call.run disk = (do
      if ← disk.holds block offset length then return (answer, after)
      else return (failed, disk))) :
    (Within disk block offset length ∧ call.run disk = .ok (answer, after))
      ∨ call.run disk = .ok (failed, disk) := by
  obtain ⟨held, answers, exactly⟩ := holds_of_small small
  rw [answers] at run
  cases held with
  | true => exact .inl ⟨exactly.mp rfl, run⟩
  | false => exact .inr run

/-- What becomes of a disk that an access is made on. -/
structure Accessed (disk : RamDisk) (access : Access)
    (answer : Option Bytes) (after : RamDisk) : Prop where
  size : after.size = disk.size
  blockSize : after.blockSize = disk.blockSize
  failed : answer = none → after = disk
  bytes : ∀ block position, position < disk.blockSize →
    (content after)[block * disk.blockSize + position]?
      = (Record.put? ⟨access, answer⟩ block position).or
        (content disk)[block * disk.blockSize + position]?
  found : ∀ block offset length, access = .read block offset length →
    ∀ bytes, answer = some bytes → bytes.length = length
      ∧ offset + length ≤ disk.blockSize
      ∧ bytes = (content disk).window (block * disk.blockSize + offset)
        length

/-- An access that fails. -/
theorem accessed_failed (disk : RamDisk) (access : Access) :
    Accessed disk access none disk where
  size := rfl
  blockSize := rfl
  failed _ := rfl
  bytes _ _ _ := rfl
  found _ _ _ _ _ none := nomatch none

/-- A successful access that puts bytes over a part of its block. -/
theorem accessed_splice {after : RamDisk} {access : Access} {data : Bytes}
    (within : Within disk block offset data.length)
    (size : after.size = disk.size)
    (blockSize : after.blockSize = disk.blockSize)
    (spliced : 0 < disk.blockSize → content after
      = (content disk).splice (block * disk.blockSize + offset) data)
    (puts : ∀ other position, position < disk.blockSize →
      access.put? other position
        = if other = block ∧ offset ≤ position then data[position - offset]?
          else none)
    (unread : ∀ block offset length, access ≠ .read block offset length) :
    Accessed disk access (some []) after where
  size := size
  blockSize := blockSize
  failed none := nomatch none
  bytes other position inside := by
    have put : Record.put? ⟨access, some []⟩ other position
        = access.put? other position := rfl
    rw [spliced (Nat.zero_lt_of_lt inside), put, puts other position inside,
      getElem?_content_splice within inside]
    by_cases here : other = block ∧ offset ≤ position
    · rw [if_pos here]
      by_cases covered : position < offset + data.length
      · rw [if_pos ⟨here.1, here.2, covered⟩,
          List.getElem?_eq_getElem (by omega)]
        rfl
      · have behind : data[position - offset]? = none :=
          List.getElem?_eq_none (by omega)
        rw [if_neg (fun all => covered all.2.2), behind, Option.none_or]
    · rw [if_neg here, if_neg (fun all => here ⟨all.1, all.2.1⟩),
        Option.none_or]
  found block offset length same := absurd same (unread block offset length)

/-- An access up to the last address is answered. -/
theorem accessed_of_small {access : Access}
    (small : access.Small disk.blockSize) :
    ∃ answer after, access.perform.run disk = .ok (answer, after)
      ∧ Accessed disk access answer after := by
  cases access with
  | read block offset length =>
    rcases run_of_small (BlockDevice.read block offset length) small rfl with
      ⟨within, run⟩ | run
    all_goals rw [Access.perform, StateT.run_bind, run]
    · refine ⟨_, _, rfl, {
        size := rfl
        blockSize := rfl
        failed := fun _ => rfl
        bytes := fun _ _ _ => rfl
        found := fun _ _ _ same _ answered => ?_ }⟩
      cases same
      cases answered
      exact ⟨Vector.length_toList, within.stays,
        (window_content within.stays within.inside).symm⟩
    · exact ⟨none, disk, rfl, accessed_failed disk _⟩
  | write block offset data =>
    rcases run_of_small (BlockDevice.write block offset data) small rfl with
      ⟨within, run⟩ | run
    all_goals rw [Access.perform, StateT.run_bind, run]
    · exact ⟨_, _, rfl, accessed_splice within rfl rfl
        (fun some => content_insert_splice some within.stays within.inside)
        (fun _ _ _ => rfl) (fun _ _ _ => nofun)⟩
    · exact ⟨none, disk, rfl, accessed_failed disk _⟩
  | erase block =>
    have whole : block * disk.blockSize + (0 + disk.blockSize) < wordLimit := by
      rw [Nat.zero_add]
      exact small
    rcases run_of_small (BlockDevice.control (.erase block)) whole rfl with
      ⟨within, run⟩ | run
    all_goals
      rw [Access.perform, StateT.run_bind, BlockDevice.run_eraseBlock, run]
    · have covers : Within disk block 0 (zeros disk.blockSize).length := by
        rw [zeros, List.length_replicate]
        exact within
      refine ⟨_, _, rfl, accessed_splice covers rfl rfl
        (fun some => content_erase some within.inside)
        (fun other position inside => ?_) (fun _ _ _ => nofun)⟩
      have zero : (zeros disk.blockSize)[position - 0]? = some 0 := by
        rw [zeros, List.getElem?_replicate, Nat.sub_zero, if_pos inside]
      rw [zero]
      simp only [Access.put?, Nat.zero_le, and_true]
    · exact ⟨none, disk, rfl, accessed_failed disk _⟩

/-- An access leaves all other blocks alone. -/
theorem Accessed.others {access : Access} {answer : Option Bytes}
    {after : RamDisk} (accessed : Accessed disk access answer after)
    (different : other ≠ access.block) (inside : position < disk.blockSize) :
    (content after)[other * disk.blockSize + position]?
      = (content disk)[other * disk.blockSize + position]? := by
  have nothing : access.put? other position = none := by
    cases access with
    | read block offset length => rfl
    | write block offset data => exact if_neg fun here => different here.1
    | erase block => exact if_neg different
  rw [accessed.bytes other position inside, Record.put?, nothing, ite_self]
  rfl

/-! ### Many accesses -/

/-- What becomes of a disk with a history. -/
structure Remembers (disk : RamDisk) (accesses : List Access)
    (history : List Record) (after : RamDisk) : Prop where
  accesses : history.map Record.access = accesses
  size : after.size = disk.size
  blockSize : after.blockSize = disk.blockSize
  bytes : ∀ block position, position < disk.blockSize →
    (content after)[block * disk.blockSize + position]?
      = (lastPut block position history).or
        (content disk)[block * disk.blockSize + position]?

/-- By induction on the accesses: each byte is the one that was put there
last. -/
theorem remembers_of_small {accesses : List Access}
    (small : ∀ access ∈ accesses, access.Small disk.blockSize) :
    ∃ history after, (performAll accesses).run disk = .ok (history, after)
      ∧ Remembers disk accesses history after := by
  induction accesses generalizing disk with
  | nil => exact ⟨[], disk, rfl, rfl, rfl, rfl, fun _ _ _ => rfl⟩
  | cons access later ih =>
    obtain ⟨answer, between, run, accessed⟩ :=
      accessed_of_small (small access List.mem_cons_self)
    have same : between.blockSize = disk.blockSize := accessed.blockSize
    have smallLater : ∀ next ∈ later, next.Small between.blockSize := by
      rw [same]
      exact fun next mem => small next (List.mem_cons_of_mem _ mem)
    obtain ⟨history, after, rest, remembers⟩ := ih smallLater
    refine ⟨⟨access, answer⟩ :: history, after, ?_, ?_⟩
    · rw [performAll, StateT.run_bind, run]
      show Except.bind ((performAll later).run between) _ = _
      rw [rest]
      rfl
    · refine {
        accesses := by rw [List.map_cons, remembers.accesses]
        size := remembers.size.trans accessed.size
        blockSize := remembers.blockSize.trans same
        bytes := fun block position inside => ?_ }
      have last := remembers.bytes block position (same.symm ▸ inside)
      rw [same] at last
      rw [last, accessed.bytes block position inside, lastPut, Option.or_assoc]

/-- After any accesses, what a successful read finds at a place of a block
is what was put there last, and the byte from the start if nothing was. An
access changes no byte of another block, one that fails changes nothing, and
the size of the disk stays. None of them stops the disk. -/
theorem reads_last_put (disk : RamDisk) (earlier : List Access)
    (access : Access)
    (small : ∀ made ∈ earlier ++ [access], made.Small disk.blockSize) :
    ∃ history before answer after,
      (performAll earlier).run disk = .ok (history, before)
      ∧ history.map Record.access = earlier
      ∧ access.perform.run before = .ok (answer, after)
      ∧ (∀ block offset length, access = .read block offset length →
        ∀ bytes, answer = some bytes → bytes.length = length
          ∧ ∀ i < length,
            bytes[i]? = (lastPut block (offset + i) history).or
              (content disk)[block * disk.blockSize + (offset + i)]?)
      ∧ (∀ other ≠ access.block, ∀ position < disk.blockSize,
        (content after)[other * disk.blockSize + position]?
          = (content before)[other * disk.blockSize + position]?)
      ∧ (answer = none → after = before)
      ∧ before.size = disk.size ∧ after.size = disk.size := by
  obtain ⟨history, before, ran, remembers⟩ := remembers_of_small
    fun made mem => small made (List.mem_append_left _ mem)
  have same : before.blockSize = disk.blockSize := remembers.blockSize
  have smallLast : access.Small before.blockSize := by
    rw [same]
    exact small access (List.mem_append_right _ (List.mem_singleton.mpr rfl))
  obtain ⟨answer, after, run, accessed⟩ := accessed_of_small smallLast
  refine ⟨history, before, answer, after, ran, remembers.accesses, run, ?_,
    fun other different position inside => ?_, accessed.failed,
    remembers.size, accessed.size.trans remembers.size⟩
  · intro block offset length reads bytes answered
    obtain ⟨full, stays, window⟩ :=
      accessed.found block offset length reads bytes answered
    refine ⟨full, fun i short => ?_⟩
    rw [window, Bytes.window, List.getElem?_take_of_lt short,
      List.getElem?_drop, Nat.add_assoc, same]
    exact remembers.bytes block (offset + i) (by omega)
  · rw [← same]
    exact accessed.others different (by omega)

end

/-- Two writes to the first block that overlap, an erasure of the second one
and a write behind the end come before a read of the first one. -/
theorem reads_last_put_sample :
    (∀ made ∈ [Access.write 0 2 [1, 2, 3], .write 0 3 [9], .erase 1,
        .write 5 0 [1]] ++ [.read 0 1 5], made.Small 8)
      ∧ ∃ history before after,
        (performAll [.write 0 2 [1, 2, 3], .write 0 3 [9], .erase 1,
          .write 5 0 [1]]).run ⟨16, 8, ∅⟩ = .ok (history, before)
        ∧ history.map Record.answer = [some [], some [], some [], none]
        ∧ (Access.read 0 1 5).perform.run before
          = .ok (some [0, 1, 9, 3, 0], after)
        ∧ lastPut 0 (1 + 2) history = some 9
        ∧ after.size = 16 := by
  refine ⟨by decide, ?_⟩
  obtain ⟨history, before, answer, after, ran, _, run, _, _, _, _, size⟩ :=
    reads_last_put ⟨16, 8, ∅⟩ [.write 0 2 [1, 2, 3], .write 0 3 [9], .erase 1,
      .write 5 0 [1]] (.read 0 1 5) (by decide)
  cases ran
  cases run
  exact ⟨_, _, _, rfl, rfl, rfl, rfl, size⟩

end MountSpace.Proofs.Storage
