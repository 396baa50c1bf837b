import MountSpace.Proofs.Storage.Content

/-!
# `MountSpace.Proofs.Storage.Bounds`: where transfers end

A transfer is a block, an offset within it and a length, and all three are
given by who asks. `Within` says that the transfer lies in the block and on
the disk, in numbers without an upper limit. `Straddles` says that it starts
at an address and ends past the last one.

* `holds_eq`: the check that a disk makes. It answers by `Within`, but a
  transfer that `Straddles` stops it.
* `Bounded`: what that makes of a call. `bounded_transfers`: reading, writing
  and erasing are such calls, and what they do they do to `content`.
* `read_stops_at_last_address`: a read that ends behind the last address does
  stop a disk, though it starts far behind its end.
-/

set_option autoImplicit false

namespace MountSpace.Proofs.Storage

open Bytes (zeros)

/-- The transfer lies in its block and on the disk. -/
structure Within (disk : RamDisk) (block offset length : Nat) : Prop where
  stays : offset + length ≤ disk.blockSize
  inside : block * disk.blockSize + offset + length ≤ disk.size

/-- The transfer stays in its block, but the last address comes between its
start and its end. -/
structure Straddles (disk : RamDisk) (block offset length : Nat) : Prop where
  stays : offset + length ≤ disk.blockSize
  starts : block * disk.blockSize + offset < wordLimit
  ends : wordLimit ≤ block * disk.blockSize + offset + length

section

variable {disk : RamDisk} {block offset length : Nat}

/-- What is on a disk ends before the last address. -/
theorem Within.not_straddles (small : disk.size < sizeLimit)
    (within : Within disk block offset length) :
    ¬ Straddles disk block offset length := by
  intro straddles
  have limits : sizeLimit ≤ wordLimit := by decide
  have inside := within.inside
  have ends := straddles.ends
  omega

/-- The check of a disk stops at the last address and is right anywhere
else. -/
theorem holds_eq (small : disk.size < sizeLimit)
    (block offset length : Nat) :
    (Straddles disk block offset length
        ∧ disk.holds block offset length = .error .addressOverflow)
      ∨ (¬ Straddles disk block offset length
        ∧ ∃ answer : Bool, disk.holds block offset length = .ok answer
          ∧ (answer = true ↔ Within disk block offset length)) := by
  have limits : sizeLimit ≤ wordLimit := by decide
  simp only [RamDisk.holds]
  by_cases stays : disk.blockSize < offset + length
  · refine .inr ⟨fun straddles => ?_, false, if_pos stays, ?_⟩
    · exact absurd straddles.stays (Nat.not_le.mpr stays)
    · refine iff_of_false Bool.false_ne_true fun within => ?_
      exact absurd within.stays (Nat.not_le.mpr stays)
  rw [if_neg stays]
  by_cases starts : wordLimit ≤ block * disk.blockSize + offset
  · refine .inr ⟨fun straddles => ?_, false, if_pos starts, ?_⟩
    · exact absurd straddles.starts (Nat.not_lt.mpr starts)
    · refine iff_of_false Bool.false_ne_true fun within => ?_
      have inside := within.inside
      omega
  rw [if_neg starts]
  by_cases ends : wordLimit ≤ block * disk.blockSize + offset + length
  · exact .inl ⟨⟨Nat.not_lt.mp stays, Nat.not_le.mp starts, ends⟩,
      if_pos ends⟩
  · refine .inr ⟨fun straddles => absurd straddles.ends ends, _,
      if_neg ends, ?_⟩
    rw [decide_eq_true_iff]
    exact ⟨fun inside => ⟨Nat.not_lt.mp stays, inside⟩, Within.inside⟩

/-! ### Calls that check a transfer -/

/-- What becomes of a call that is about one transfer: it is done if the
transfer is on the disk, stops the disk at the last address, and otherwise
answers that it failed and changes nothing. -/
structure Bounded {α : Type} (disk : RamDisk) (block offset length : Nat)
    (call : Call RamDisk α) (failed : α) (done : α → RamDisk → Prop) :
    Prop where
  within : Within disk block offset length →
    ∃ answer after, call.run disk = .ok (answer, after) ∧ done answer after
  straddles : Straddles disk block offset length →
    call.run disk = .error .addressOverflow
  outside : ¬ Within disk block offset length →
    ¬ Straddles disk block offset length → call.run disk = .ok (failed, disk)

/-- A call that first checks its transfer. -/
theorem Bounded.of_run {α : Type} {call : Call RamDisk α} {failed : α}
    {done : α → RamDisk → Prop} (small : disk.size < sizeLimit)
    {answer : α} {after : RamDisk}
    (run : call.run disk = (do
      if ← disk.holds block offset length then return (answer, after)
      else return (failed, disk)))
    (right : Within disk block offset length → done answer after) :
    Bounded disk block offset length call failed done := by
  rcases holds_eq small block offset length with
    ⟨straddles, stops⟩ | ⟨passes, held, answers, exactly⟩
  · rw [stops] at run
    exact {
      within := fun within =>
        absurd straddles (within.not_straddles small)
      straddles := fun _ => run
      outside := fun _ passes => absurd straddles passes }
  · rw [answers] at run
    cases held with
    | true =>
      exact {
        within := fun within => ⟨answer, after, run, right within⟩
        straddles := fun straddles => absurd straddles passes
        outside := fun outside _ => absurd (exactly.mp rfl) outside }
    | false =>
      exact {
        within := fun within => nomatch exactly.mpr within
        straddles := fun straddles => absurd straddles passes
        outside := fun _ _ => run }

end

/-- Every call of a disk that is about a transfer does it exactly if it is
on the disk, and leaves everything as it was if it fails. Only where the
last address comes between its start and its end does the call stop. -/
theorem bounded_transfers {disk : RamDisk} (whole : Whole disk)
    (block offset length : Nat) (data : Bytes) :
    Bounded disk block offset length
        (BlockDevice.read block offset length) none (fun found after =>
          after = disk ∧ ∃ bytes, found = some bytes ∧ bytes.toList
            = (content disk).window (block * disk.blockSize + offset)
                length)
      ∧ Bounded disk block offset data.length
        (BlockDevice.write block offset data) false (fun done after =>
          done = true ∧ geometryOf after = geometryOf disk
          ∧ after.size = disk.size
          ∧ content after = (content disk).splice
              (block * disk.blockSize + offset) data)
      ∧ Bounded disk block 0 disk.blockSize
        (BlockDevice.control (.erase block)) (-1) (fun told after =>
          told = 0 ∧ geometryOf after = geometryOf disk
          ∧ after.size = disk.size
          ∧ content after = (content disk).splice (block * disk.blockSize)
              (zeros disk.blockSize)) := by
  refine ⟨.of_run whole.small rfl fun within => ⟨rfl, _, rfl, ?_⟩,
    .of_run whole.small rfl fun within => ⟨rfl, rfl, rfl, ?_⟩,
    .of_run whole.small rfl fun within => ⟨rfl, rfl, rfl, ?_⟩⟩
  · exact (window_content within.stays within.inside).symm
  · exact content_insert_splice whole.some within.stays within.inside
  · exact content_erase whole.some within.inside

/-- Two bytes at the end of a disk with two blocks. -/
theorem bounded_transfers_sample :
    ∃ disk, RamDisk.ofBytes [0, 1, 2, 3, 4, 5, 6, 7, 8] 4 = .ok disk
      ∧ Whole disk ∧ content disk = [0, 1, 2, 3, 4, 5, 6, 7]
      ∧ Bounded disk 1 2 2 (BlockDevice.read 1 2 2) none
        (fun found after => after = disk ∧ ∃ bytes, found = some bytes
          ∧ bytes.toList = (content disk).window 6 2) := by
  obtain ⟨whole, bytes⟩ :=
    @content_ofBytes _ 4 [0, 1, 2, 3, 4, 5, 6, 7, 8] (by decide) (by decide)
      rfl
  exact ⟨_, rfl, whole, bytes, (bounded_transfers whole 1 2 2 []).1⟩

/-- A read of the last block before the last address stops a disk of two
blocks, where a read of the block before it only fails. -/
theorem read_stops_at_last_address :
    ∃ disk, RamDisk.blank 16 2 = .ok disk
      ∧ (BlockDevice.read 0xfff_ffff_ffff_fffe 0 16).run disk
        = .ok (none, disk)
      ∧ ¬ Within disk 0xfff_ffff_ffff_ffff 0 16
      ∧ (BlockDevice.read 0xfff_ffff_ffff_ffff 0 16).run disk
        = .error .addressOverflow := by
  refine ⟨⟨32, 16, ∅⟩, rfl, rfl, fun within => ?_, rfl⟩
  have inside : 0xfff_ffff_ffff_ffff * 16 + 0 + 16 ≤ 32 := within.inside
  omega

end MountSpace.Proofs.Storage
