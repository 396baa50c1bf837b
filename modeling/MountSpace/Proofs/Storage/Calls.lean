import MountSpace.Proofs.Storage.Trees

/-!
# `MountSpace.Proofs.Storage.Calls`: the calls of a commit

A commit puts the image into the blocks behind the first one, then the
superblock into the first one, and syncs at last.

* `committing`: the calls of a commit, in their order.
* `ensures_store_calls`: on a device on which a call that fails does
  nothing, a store that fails at the device has made some of the calls, in
  their order, and nothing else (`BrokenOff`).
-/

set_option autoImplicit false

namespace MountSpace.Proofs.Storage

open Effects

/-- The calls that put a superblock into the first block. -/
def heading (superblock : Superblock) : List Work :=
  [.erase 0, .write 0 superblock.encode, .sync]

/-- The calls that put a tree on a device. -/
def committing (geometry : Geometry) (root : Tree) : List Work :=
  replacing geometry.blockSize 1 root.encode
    ++ heading (superblockOf geometry root.encode.length)

/-- What is done with a superblock comes to these calls. -/
theorem heading_eq {σ : Type} [BlockDevice σ] (superblock : Superblock)
    (event : Event) :
    (do
      Medium.replaceBlock 0 superblock.encode
      Medium.control .sync
      Medium.note event : Action (Medium σ) Unit)
      = makeAll (heading superblock) >>= fun _ => Medium.note event := by
  rw [replaceBlock_eq]
  simp only [heading, makeAll, bind_assoc, pure_bind]
  rfl

section

variable {σ : Type} [BlockDevice σ] {layer : Layer σ} {disk : RamDisk}
  {events : List Event}

/-- Some of the calls that put a tree on the disk are done, from the first
one on, and nothing else. The first block is only touched for an image
that fits. -/
def BrokenOff (layer : Layer σ) (disk : RamDisk) (root : Tree)
    (medium : Medium σ) : Prop :=
  ∃ n < (committing (geometryOf disk) root).length,
    layer.disk medium.device
        = effects ((committing (geometryOf disk) root).take n) disk
      ∧ ((replacing disk.blockSize 1 root.encode).length ≤ n →
        root.encode.length ≤ (geometryOf disk).capacity
          ∧ root.encode.length < fieldLimit)

/-- The rest of a store, once the image is in the blocks: the superblock is
put into the first one, if the numbers fit. -/
theorem ensures_heading (stops : layer.FailStop) (geometry : Geometry)
    (imageLength : Nat) (disk : RamDisk) :
    Ensures (layer.Shows disk events)
      (do
        let superblock ← Action.ofExcept (geometry.superblock imageLength)
        Medium.replaceBlock 0 superblock.encode
        Medium.control .sync
        Medium.note (.imageCommitted imageLength))
      (fun _ _ => True)
      (fun fault medium => fault = .ioError → imageLength < fieldLimit
        ∧ ∃ n < 3, layer.disk medium.device
          = effects ((heading (superblockOf geometry imageLength)).take n)
            disk) := by
  rw [Geometry.superblock]
  split
  · next fits =>
    have made : Ensures (layer.Shows disk events)
        (makeAll (heading (superblockOf geometry imageLength)) >>= fun _ =>
          Medium.note (.imageCommitted imageLength))
        (fun _ _ => True)
        (fun _ medium => ∃ n < 3, layer.Spares
          (effects ((heading (superblockOf geometry imageLength)).take n)
            disk) medium) :=
      ensures_bind (ensures_makeAll _ disk) fun _ _ _ => trivial
    rw [← heading_eq] at made
    refine made.imp (fun _ shows => shows) (fun _ _ _ => trivial) ?_
    rintro _ medium ⟨n, few, spares⟩ _
    exact ⟨fits.2.2, n, few, spares.same stops⟩
  · intro medium _ isIo
    cases isIo

/-- A store that fails at the device has made some of the calls. -/
theorem ensures_store_calls (stops : layer.FailStop)
    (readable : Readable (geometryOf disk)) (root : Tree) :
    Ensures (layer.Shows disk events) (root.store (geometryOf disk))
      (fun _ _ => True)
      (fun fault medium =>
        fault = .ioError → BrokenOff layer disk root medium) := by
  have length : (committing (geometryOf disk) root).length
      = (replacing disk.blockSize 1 root.encode).length + 3 :=
    List.length_append
  have room : (geometryOf disk).room
      = (pure (geometryOf disk).capacity : Action (Medium σ) Nat) :=
    room_eq_pure readable
  simp only [Tree.store, room, pure_bind]
  by_cases tooLong : (geometryOf disk).capacity < root.encode.length
  · rw [if_pos tooLong]
    intro medium _ isIo
    cases isIo
  rw [if_neg tooLong, replaceBlocks_eq]
  have image : Ensures (layer.Shows disk events)
      (makeAll (replacing disk.blockSize 1 root.encode))
      (fun _ => layer.Shows
        (effects (replacing disk.blockSize 1 root.encode) disk) events)
      (fun fault medium =>
        fault = .ioError → BrokenOff layer disk root medium) := by
    refine (ensures_makeAll _ disk).imp (fun _ shows => shows)
      (fun _ _ shows => shows) ?_
    rintro _ medium ⟨n, few, spares⟩ _
    refine ⟨n, by omega, ?_, fun past => absurd few (Nat.not_lt.mpr past)⟩
    rw [spares.same stops, committing]
    exact congrArg (effects · disk)
      (List.take_append_of_le_length (Nat.le_of_lt few)).symm
  refine ensures_bind image fun _ => ?_
  refine (ensures_heading stops _ _ _).imp (fun _ shows => shows)
    (fun _ _ _ => trivial) ?_
  intro fault medium broken failed
  obtain ⟨short, n, few, same⟩ := broken failed
  refine ⟨(replacing disk.blockSize 1 root.encode).length + n, by omega, ?_,
    fun _ => ⟨Nat.not_lt.mp tooLong, short⟩⟩
  rw [same, committing, ← effects_append]
  exact congrArg (effects · disk) (List.take_length_add_append n).symm

end

end MountSpace.Proofs.Storage
