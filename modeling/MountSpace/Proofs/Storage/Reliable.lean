import MountSpace.Proofs.Storage.Trees

/-!
# `MountSpace.Proofs.Storage.Reliable`: devices that do not fail

A device is reliable if it does what it is asked within its blocks
(`Reliable`). A disk in memory is. On such a device it is told by the length
of its image alone whether a tree is stored.

* `completes_replaceBlocks`, `completes_commit`: what lies within the blocks
  is written.
* `store_done_iff`: a store is done exactly when there is room for the image
  and its length fits the superblock.
-/

set_option autoImplicit false

namespace MountSpace.Proofs.Storage

open Effects

/-- A device that, in the states in which it works, does not fail within the
blocks of the geometry, and goes on to work. -/
structure Reliable {σ : Type} [BlockDevice σ] (geometry : Geometry)
    (works : σ → Prop) : Prop where
  erases {block : Nat} {state : σ} :
    works state → block < geometry.blockCount →
    ∃ told after, 0 ≤ told ∧ works after
      ∧ (BlockDevice.control (.erase block)).run state = .ok (told, after)
  writes {block : Nat} {data : Bytes} {state : σ} :
    works state → block < geometry.blockCount →
    data.length ≤ geometry.blockSize →
    ∃ after, works after
      ∧ (BlockDevice.write block 0 data).run state = .ok (true, after)
  syncs {state : σ} : works state →
    ∃ told after, 0 ≤ told ∧ works after
      ∧ (BlockDevice.control .sync).run state = .ok (told, after)

/-- A disk in memory does not fail. -/
theorem reliable_disk {geometry : Geometry} (readable : Readable geometry) :
    Reliable geometry (fun disk : RamDisk => geometryOf disk = geometry) := by
  constructor
  · rintro block disk rfl inside
    refine ⟨0, { disk with blocks := disk.blocks.erase block },
      Int.le_refl 0, rfl, (run_erase_eq_ok (Int.le_refl 0)).mpr ?_⟩
    exact ⟨holds_of_lt readable.legible inside (Nat.le_refl _), rfl, rfl⟩
  · rintro block data disk rfl inside short
    refine ⟨{ disk with
      blocks := disk.blocks.insert block ((disk.kept block).splice 0 data) },
      rfl, run_write_eq_ok.mpr ?_⟩
    exact ⟨holds_of_lt readable.legible inside short, rfl⟩
  · rintro disk rfl
    exact ⟨0, disk, Int.le_refl 0, rfl, rfl⟩

section

variable {σ : Type} [BlockDevice σ] {geometry : Geometry}
  {works : σ → Prop}

theorem completes_replaceBlock (reliable : Reliable geometry works)
    {block : Nat} {data : Bytes} (inside : block < geometry.blockCount)
    (short : data.length ≤ geometry.blockSize) :
    Completes (fun medium : Medium σ => works medium.device)
      (Medium.replaceBlock block data)
      (fun _ medium => works medium.device) := by
  intro medium working
  obtain ⟨told, erased, success, working, erase⟩ :=
    reliable.erases working inside
  obtain ⟨after, working, write⟩ := reliable.writes working inside short
  refine ⟨(), { medium with device := after }, ?_, working⟩
  simp only [Medium.run_replaceBlock, BlockDevice.run_eraseBlock, erase,
    success, decide_true, write]

/-- A byte string that lies within the blocks is written whole. -/
theorem completes_replaceBlocks (reliable : Reliable geometry works)
    {block : Nat} {data : Bytes}
    (inside : block * geometry.blockSize + data.length
      ≤ geometry.blockCount * geometry.blockSize) :
    Completes (fun medium : Medium σ => works medium.device)
      (Medium.replaceBlocks geometry.blockSize block data)
      (fun _ medium => works medium.device) := by
  fun_induction (Medium.replaceBlocks geometry.blockSize block data :
    Action (Medium σ) Unit) with
  | case1 block data more ih =>
    have lower : block < geometry.blockCount :=
      block_lt_of_le (List.length_pos_iff.mpr more.2) inside
    -- What is left of the byte string starts in the block behind.
    have next := next_le lower inside
    rw [← List.length_drop] at next
    exact completes_bind (completes_replaceBlock reliable lower
      (List.length_take_le _ _)) fun _ => ih next
  | case2 block data none => exact completes_pure fun _ working => working

theorem completes_sync (reliable : Reliable geometry works) :
    Completes (fun medium : Medium σ => works medium.device)
      (Medium.control .sync) (fun _ medium => works medium.device) := by
  intro medium working
  obtain ⟨told, after, success, working, run⟩ := reliable.syncs working
  refine ⟨(), { medium with device := after }, ?_, working⟩
  simp only [Medium.run_control, run, if_neg (Int.not_lt.mpr success)]

/-- A tree for which there is room is committed. -/
theorem completes_commit (reliable : Reliable geometry works)
    (readable : Readable geometry) {root : Tree}
    (fits : root.encode.length ≤ geometry.capacity) :
    Completes (fun medium : Medium σ => works medium.device)
      (commit geometry root) (fun _ medium => works medium.device) := by
  have inside : 1 * geometry.blockSize + root.encode.length
      ≤ geometry.blockCount * geometry.blockSize := by
    have all := readable.mul_eq
    omega
  have first : 0 < geometry.blockCount :=
    Nat.lt_of_lt_of_le (by decide) readable.two
  have header : (superblockOf geometry root.encode.length).encode.length
      ≤ geometry.blockSize := by
    rw [length_encode]
    exact readable.header
  refine completes_bind (completes_replaceBlocks reliable inside) fun _ => ?_
  refine completes_bind (completes_replaceBlock reliable first header)
    fun _ => ?_
  refine completes_bind (completes_sync reliable) fun _ => ?_
  intro medium working
  exact ⟨(), _, rfl, working⟩

/-- On a reliable device a tree is stored exactly when there is room for its
image and the length of that fits the superblock. -/
theorem store_done_iff (reliable : Reliable geometry works)
    (readable : Readable geometry) {root : Tree} {medium : Medium σ}
    (working : works medium.device) :
    (∃ after, (root.store geometry).run medium = .done () after
        ∧ works after.device)
      ↔ root.encode.length ≤ geometry.capacity
        ∧ root.encode.length < fieldLimit := by
  constructor
  · rintro ⟨after, run, _⟩
    have known := ensures_store_room geometry root medium trivial
    rw [run] at known
    exact ⟨known.1, known.2.image⟩
  · rintro ⟨fits, short⟩
    obtain ⟨_, after, run, working⟩ :=
      completes_commit reliable readable fits medium working
    rw [store_eq_commit readable fits short]
    exact ⟨after, run, working⟩

end

end MountSpace.Proofs.Storage
