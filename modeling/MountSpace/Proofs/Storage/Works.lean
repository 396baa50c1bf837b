import MountSpace.Proofs.Storage.Layer

/-!
# `MountSpace.Proofs.Storage.Works`: the calls that change a disk

To put bytes into blocks is to ask a device to erase and to write one block
after another. Here these calls are a list, so that it can be said how many
of them were made.

* `Work`: one call, with what it does to a disk (`effects`).
* `replacing`: the calls that put a byte string into blocks.
  `effects_replacing` says what they come to when all are made.
* `replaceBlock_eq`, `replaceBlocks_eq`: the operations on a medium make
  these calls one after another (`makeAll`).
* `ensures_makeAll`: behind a layer, all calls are made, or those up to the
  first one that fails. `ensures_replaceBlocks`, …: what this comes to for
  the operations.
-/

set_option autoImplicit false

namespace MountSpace.Proofs.Storage

open Effects

/-! ### Calls and what they do -/

/-- A call that changes a disk, or waits until it is changed. -/
inductive Work where
  | erase (block : Nat)
  | write (block : Nat) (data : Bytes)
  | sync

/-- The disk after a call that is done. -/
def Work.effect (disk : RamDisk) : Work → RamDisk
  | erase block => { disk with blocks := disk.blocks.erase block }
  | write block data =>
    { disk with
      blocks := disk.blocks.insert block
        ((disk.kept block).splice 0 data) }
  | sync => disk

/-- The disk after calls that are done. -/
def effects (works : List Work) (disk : RamDisk) : RamDisk :=
  works.foldl Work.effect disk

/-- The calls that put a byte string into the blocks from the given one
on. -/
def replacing (blockSize block : Nat) (data : Bytes) : List Work :=
  if _more : 0 < blockSize ∧ data ≠ [] then
    .erase block :: .write block (data.take blockSize)
      :: replacing blockSize (block + 1) (data.drop blockSize)
  else []
termination_by data.length
decreasing_by
  have := List.length_pos_iff.mpr _more.2
  rw [List.length_drop]
  omega

theorem effects_append (works more : List Work) (disk : RamDisk) :
    effects (works ++ more) disk = effects more (effects works disk) :=
  List.foldl_append

theorem geometryOf_effects (works : List Work) (disk : RamDisk) :
    geometryOf (effects works disk) = geometryOf disk := by
  induction works generalizing disk with
  | nil => rfl
  | cons work works ih =>
    have one : geometryOf (work.effect disk) = geometryOf disk := by
      cases work <;> rfl
    exact (ih (work.effect disk)).trans one

/-- A block is replaced by two calls. -/
theorem effects_replace (disk : RamDisk) (block : Nat) (data : Bytes) :
    effects [.erase block, .write block data] disk
      = replace disk block data :=
  insert_splice_erase disk block data

theorem effects_replacing (disk : RamDisk) (blockSize block : Nat)
    (data : Bytes) :
    effects (replacing blockSize block data) disk
      = replaceAll disk blockSize block data := by
  fun_induction replacing blockSize block data generalizing disk with
  | case1 block data more ih =>
    rw [replaceAll, dif_pos more, ← ih, ← effects_replace]
    rfl
  | case2 block data none =>
    rw [replaceAll, dif_neg none]
    rfl

/-! ### The calls of operations -/

section

variable {σ : Type}

/-- Makes a call that has to succeed. -/
def accept (call : Call σ Bool) : Action (Medium σ) Unit := do
  if ← Medium.ask call then return else Action.refuse .ioError

theorem run_accept (call : Call σ Bool) (medium : Medium σ) :
    (accept call).run medium =
      match call.run medium.device with
      | .ok (true, device) => .done () { medium with device }
      | .ok (false, device) => .refused .ioError { medium with device }
      | .error trap => .stopped trap := by
  rw [accept, Action.run_bind, Medium.run_ask]
  cases call.run medium.device with
  | error trap => rfl
  | ok answer =>
    obtain ⟨success, device⟩ := answer
    cases success <;> rfl

variable [BlockDevice σ]

/-- Makes one of the calls. -/
def Work.make : Work → Action (Medium σ) Unit
  | erase block => accept (BlockDevice.eraseBlock block)
  | write block data => accept (BlockDevice.write block 0 data)
  | sync => Medium.control .sync

/-- Makes calls one after another, until one of them fails. -/
def makeAll : List Work → Action (Medium σ) Unit
  | [] => pure ()
  | work :: works => do
    work.make
    makeAll works

theorem makeAll_append (works more : List Work) :
    (makeAll (works ++ more) : Action (Medium σ) Unit)
      = makeAll works >>= fun _ => makeAll more := by
  induction works with
  | nil => rfl
  | cons work works ih =>
    rw [List.cons_append, makeAll, makeAll, ih, bind_assoc]

theorem replaceBlock_eq (block : Nat) (data : Bytes) :
    (Medium.replaceBlock block data : Action (Medium σ) Unit)
      = makeAll [.erase block, .write block data] := by
  ext medium
  rw [Medium.run_replaceBlock]
  simp only [makeAll, Work.make, Action.run_bind, run_accept]
  cases (BlockDevice.eraseBlock block).run medium.device with
  | error trap => rfl
  | ok answer =>
    obtain ⟨erased, device⟩ := answer
    cases erased with
    | false => rfl
    | true =>
      simp only
      cases (BlockDevice.write block 0 data).run device with
      | error trap => rfl
      | ok answer =>
        obtain ⟨written, after⟩ := answer
        cases written <;> rfl

theorem replaceBlocks_eq (blockSize block : Nat) (data : Bytes) :
    (Medium.replaceBlocks blockSize block data : Action (Medium σ) Unit)
      = makeAll (replacing blockSize block data) := by
  fun_induction replacing blockSize block data with
  | case1 block data more ih =>
    rw [Medium.replaceBlocks, dif_pos more, replaceBlock_eq, ih]
    exact (makeAll_append [_, _] _).symm
  | case2 block data none =>
    rw [Medium.replaceBlocks, dif_neg none]
    rfl

end

/-! ### Calls behind a layer -/

section

variable {σ : Type} [BlockDevice σ] {layer : Layer σ} {disk : RamDisk}
  {events : List Event}

/-- What a call that failed leaves of a disk: its geometry, and all of it
on a device on which such a call does nothing. -/
structure Layer.Spares (layer : Layer σ) (disk : RamDisk)
    (medium : Medium σ) : Prop where
  has : layer.Has (geometryOf disk) medium
  same : layer.FailStop → layer.disk medium.device = disk

/-- To start, to shut down and to sync change nothing on a disk. -/
theorem ensures_request {request : Control}
    (idle : request = .start ∨ request = .shutdown ∨ request = .sync) :
    Ensures (layer.Shows disk events) (Medium.control request)
      (fun _ => layer.Shows disk events) (fun _ => layer.Spares disk) := by
  intro medium ⟨honest, same, noted⟩
  rw [Medium.run_control]
  cases run : (BlockDevice.control request).run medium.device with
  | error trap => trivial
  | ok answer =>
    obtain ⟨told, after⟩ := answer
    obtain ⟨still, geometry⟩ := layer.control_stays honest run
    by_cases failed : told < 0
    · -- A negative answer is a failure.
      simp only [if_pos failed]
      exact ⟨⟨still, geometry.trans (congrArg geometryOf same)⟩, fun stops =>
        (stops.control_failed honest failed run).trans same⟩
    · obtain ⟨answer, _, done⟩ :=
        layer.control_done honest (Int.not_lt.mp failed) run
      have stays : layer.disk after = layer.disk medium.device := by
        rcases idle with rfl | rfl | rfl <;>
          exact (Prod.mk.inj (Except.ok.inj done)).2.symm
      simp only [if_neg failed]
      exact ⟨still, stays.trans same, noted⟩

theorem ensures_erase (block : Nat) :
    Ensures (layer.Shows disk events)
      (accept (BlockDevice.eraseBlock block))
      (fun _ => layer.Shows ((Work.erase block).effect disk) events)
      (fun _ => layer.Spares disk) := by
  intro medium ⟨honest, same, noted⟩
  rw [run_accept, BlockDevice.run_eraseBlock]
  cases run : (BlockDevice.control (.erase block)).run medium.device with
  | error trap => trivial
  | ok answer =>
    obtain ⟨told, after⟩ := answer
    obtain ⟨still, stays⟩ := layer.control_stays honest run
    by_cases success : 0 ≤ told
    · obtain ⟨_, told', done⟩ := layer.control_done honest success run
      obtain ⟨_, _, onDisk⟩ := (run_erase_eq_ok told').mp done
      simp only [success, decide_true]
      exact ⟨still, onDisk.trans (same ▸ rfl), noted⟩
    · simp only [success, decide_false]
      exact ⟨⟨still, stays.trans (congrArg geometryOf same)⟩, fun stops =>
        (stops.control_failed honest (Int.not_le.mp success) run).trans same⟩

theorem ensures_write (block : Nat) (data : Bytes) :
    Ensures (layer.Shows disk events)
      (accept (BlockDevice.write block 0 data))
      (fun _ => layer.Shows ((Work.write block data).effect disk) events)
      (fun _ => layer.Spares disk) := by
  intro medium ⟨honest, same, noted⟩
  rw [run_accept]
  cases run : (BlockDevice.write block 0 data).run medium.device with
  | error trap => trivial
  | ok answer =>
    obtain ⟨written, after⟩ := answer
    obtain ⟨still, stays⟩ := layer.write_stays honest run
    cases written with
    | false =>
      exact ⟨⟨still, stays.trans (congrArg geometryOf same)⟩, fun stops =>
        (stops.write_failed honest run).trans same⟩
    | true =>
      obtain ⟨_, onDisk⟩ :=
        run_write_eq_ok.mp (layer.write_done honest run)
      exact ⟨still, onDisk.trans (same ▸ rfl), noted⟩

/-- A call is done, or the disk is spared. -/
theorem ensures_make (work : Work) :
    Ensures (layer.Shows disk events) work.make
      (fun _ => layer.Shows (work.effect disk) events)
      (fun _ => layer.Spares disk) := by
  cases work with
  | erase block => exact ensures_erase block
  | write block data => exact ensures_write block data
  | sync => exact ensures_request (Or.inr (Or.inr rfl))

/-- Calls are done up to the first one that fails. -/
theorem ensures_makeAll (works : List Work) (disk : RamDisk) :
    Ensures (layer.Shows disk events) (makeAll works)
      (fun _ => layer.Shows (effects works disk) events)
      (fun _ medium => ∃ n < works.length,
        layer.Spares (effects (works.take n) disk) medium) := by
  induction works generalizing disk with
  | nil => exact fun _ shows => shows
  | cons work works ih =>
    have first : Ensures (layer.Shows disk events) work.make
        (fun _ => layer.Shows (work.effect disk) events)
        (fun _ medium => ∃ n < (work :: works).length,
          layer.Spares (effects ((work :: works).take n) disk) medium) :=
      (ensures_make work).imp (fun _ shows => shows)
        (fun _ _ shows => shows)
        (fun _ _ spares => ⟨0, Nat.succ_pos _, spares⟩)
    refine ensures_bind first fun _ => ?_
    refine (ih (work.effect disk)).imp (fun _ shows => shows)
      (fun _ _ shows => shows) ?_
    rintro _ medium ⟨n, few, spares⟩
    exact ⟨n + 1, Nat.succ_lt_succ few, spares⟩

/-- Whatever was made of the calls, the geometry is the same. -/
theorem ensures_makeAll_has (works : List Work) :
    Ensures (layer.Shows disk events) (makeAll works)
      (fun _ => layer.Shows (effects works disk) events)
      (fun _ => layer.Has (geometryOf disk)) := by
  refine (ensures_makeAll works disk).imp (fun _ shows => shows)
    (fun _ _ shows => shows) ?_
  rintro _ medium ⟨n, _, spares⟩
  rw [← geometryOf_effects (works.take n) disk]
  exact spares.has

theorem ensures_control {request : Control}
    (idle : request = .start ∨ request = .shutdown ∨ request = .sync) :
    Ensures (layer.Shows disk events) (Medium.control request)
      (fun _ => layer.Shows disk events)
      (fun _ => layer.Has (geometryOf disk)) :=
  (ensures_request idle).imp (fun _ shows => shows)
    (fun _ _ shows => shows) (fun _ _ spares => spares.has)

/-- A block that is replaced holds what was written. If that is refused
the block may hold anything. -/
theorem ensures_replaceBlock (block : Nat) (data : Bytes) :
    Ensures (layer.Shows disk events) (Medium.replaceBlock block data)
      (fun _ => layer.Shows (replace disk block data) events)
      (fun _ => layer.Has (geometryOf disk)) := by
  rw [replaceBlock_eq, ← effects_replace]
  exact ensures_makeAll_has _

/-- The same of successive blocks. -/
theorem ensures_replaceBlocks (disk : RamDisk) (blockSize block : Nat)
    (data : Bytes) :
    Ensures (layer.Shows disk events)
      (Medium.replaceBlocks blockSize block data)
      (fun _ => layer.Shows (replaceAll disk blockSize block data) events)
      (fun _ => layer.Has (geometryOf disk)) := by
  rw [replaceBlocks_eq, ← effects_replacing]
  exact ensures_makeAll_has _

end

end MountSpace.Proofs.Storage
