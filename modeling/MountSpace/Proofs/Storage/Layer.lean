import MountSpace.Device.Probe
import MountSpace.Proofs.Effects
import MountSpace.Proofs.Storage.Disk

/-!
# `MountSpace.Proofs.Storage.Layer`: devices in front of a disk

A layer is a device in front of a disk. Any call of it can fail, and a
call that fails may leave anything in the blocks. But a write, an erasure
or a sync that it says is done has been done to the disk, and it tells
the numbers of the disk. Nothing is promised of what a read finds.

* `Layer.direct`, `Layer.probe`: a disk by itself, and a probe in front
  of a disk, as long as it does not make up answers.
* `Layer.FailStop`: a call that fails does nothing, which is more than a
  layer promises.
* `ensures_geometry`, `keeps_readBlocks`, …: what the operations that ask
  for numbers or read find, and what they leave alone. Refused or not, they
  leave the geometry of the disk alone.
-/

set_option autoImplicit false

namespace MountSpace.Proofs.Storage

open Effects

/-- A device in front of a disk, in the states in which it keeps its
promises. -/
structure Layer (σ : Type) [BlockDevice σ] where
  /-- The disk behind. -/
  disk : σ → RamDisk
  /-- The states in which promises are kept. -/
  honest : σ → Prop
  read_stays {block offset length : Nat} {state after : σ}
    {answer : Option (Vector UInt8 length)} :
    honest state →
    (BlockDevice.read block offset length).run state = .ok (answer, after) →
    honest after ∧ geometryOf (disk after) = geometryOf (disk state)
  write_stays {block offset : Nat} {data : Bytes} {state after : σ}
    {answer : Bool} :
    honest state →
    (BlockDevice.write block offset data).run state = .ok (answer, after) →
    honest after ∧ geometryOf (disk after) = geometryOf (disk state)
  control_stays {request : Control} {state after : σ} {answer : Int} :
    honest state →
    (BlockDevice.control request).run state = .ok (answer, after) →
    honest after ∧ geometryOf (disk after) = geometryOf (disk state)
  /-- What is said to be written is written. -/
  write_done {block offset : Nat} {data : Bytes} {state after : σ} :
    honest state →
    (BlockDevice.write block offset data).run state = .ok (true, after) →
    (RamDisk.write block offset data).run (disk state)
      = .ok (true, disk after)
  /-- What is said to be done is done. -/
  control_done {request : Control} {state after : σ} {answer : Int} :
    honest state → 0 ≤ answer →
    (BlockDevice.control request).run state = .ok (answer, after) →
    ∃ told, 0 ≤ told
      ∧ (RamDisk.control request).run (disk state) = .ok (told, disk after)
  /-- The numbers that are told are those of the disk. -/
  truthful {request : Control} {state after : σ} {answer : Int} :
    honest state → request = .blockSize ∨ request = .blockCount →
    (BlockDevice.control request).run state = .ok (answer, after) →
    (RamDisk.control request).run (disk state) = .ok (answer, disk after)

/-! ### Layers -/

/-- A test that is made leads to one of two results. -/
theorem eq_or_eq_of_ite {α : Type} {test : Except Trap Bool}
    {yes no result : α}
    (run : (do if ← test then return yes else return no) = .ok result) :
    result = yes ∨ result = no := by
  cases test with
  | error trap => nomatch run
  | ok holds =>
    cases holds with
    | true => exact Or.inl (Except.ok.inj run).symm
    | false => exact Or.inr (Except.ok.inj run).symm

section

variable {disk after : RamDisk} {block offset length : Nat}

theorem geometryOf_read {answer : Option (Vector UInt8 length)}
    (run : (RamDisk.read block offset length).run disk
      = .ok (answer, after)) :
    geometryOf after = geometryOf disk := by
  cases eq_or_eq_of_ite run with
  | inl same | inr same =>
    cases same
    rfl

theorem geometryOf_write {data : Bytes} {answer : Bool}
    (run : (RamDisk.write block offset data).run disk
      = .ok (answer, after)) :
    geometryOf after = geometryOf disk := by
  cases eq_or_eq_of_ite run with
  | inl same | inr same =>
    cases same
    rfl

/-- Only to erase a block changes a disk. -/
theorem same_of_control {request : Control} {answer : Int}
    (others : ∀ block, request ≠ .erase block)
    (run : (RamDisk.control request).run disk = .ok (answer, after)) :
    after = disk := by
  cases request with
  | start | shutdown | sync | blockSize =>
    exact (Prod.mk.inj (Except.ok.inj run)).2.symm
  | blockCount =>
    have run : (if disk.blockSize = 0 then .error Trap.zeroBlockSize
        else .ok (signedWord (disk.size / disk.blockSize), disk))
          = Except.ok (answer, after) := run
    split at run
    · nomatch run
    · exact (Prod.mk.inj (Except.ok.inj run)).2.symm
  | erase block => exact absurd rfl (others block)

theorem geometryOf_control {request : Control} {answer : Int}
    (run : (RamDisk.control request).run disk = .ok (answer, after)) :
    geometryOf after = geometryOf disk := by
  cases request with
  | start | shutdown | sync | blockSize | blockCount =>
    rw [same_of_control (by simp) run]
  | erase block =>
    cases eq_or_eq_of_ite run with
    | inl same | inr same =>
      cases same
      rfl

end

namespace Layer

/-- A disk by itself. -/
def direct : Layer RamDisk where
  disk := id
  honest _ := True
  read_stays _ run := ⟨trivial, geometryOf_read run⟩
  write_stays _ run := ⟨trivial, geometryOf_write run⟩
  control_stays _ run := ⟨trivial, geometryOf_control run⟩
  write_done _ run := run
  control_done _ success run := ⟨_, success, run⟩
  truthful _ _ run := run

end Layer

/-! ### Probes -/

section

variable {σ α : Type} {probe after : Probe σ}

/-- A call that is passed on is answered by the device. -/
theorem pass_eq_ok {call : Call σ α} {answer : α}
    (run : (Probe.pass call).run probe = .ok (answer, after)) :
    after.faults = probe.faults
      ∧ call.run probe.device = .ok (answer, after.device) := by
  rw [Probe.run_pass] at run
  cases ending : call.run probe.device with
  | error trap =>
    rw [ending] at run
    nomatch run
  | ok result =>
    rw [ending] at run
    cases run
    exact ⟨rfl, rfl⟩

variable [BlockDevice σ] {block offset length : Nat}

/-- A read is failed or passed on. -/
theorem probe_read_cases {answer : Option (Vector UInt8 length)}
    (run : (Probe.read block offset length).run probe
      = .ok (answer, after)) :
    after.faults.answers = probe.faults.answers
      ∧ (after.device = probe.device
        ∨ (BlockDevice.read block offset length).run probe.device
          = .ok (answer, after.device)) := by
  rw [Probe.run_read] at run
  by_cases failing : block ∈ probe.faults.reads
  · simp only [if_pos failing] at run
    cases run
    exact ⟨rfl, Or.inl rfl⟩
  · simp only [if_neg failing] at run
    obtain ⟨faults, passed⟩ := pass_eq_ok run
    exact ⟨congrArg Probe.Faults.answers faults, Or.inr passed⟩

/-- A write is failed or passed on. -/
theorem probe_write_cases {data : Bytes} {answer : Bool}
    (run : (Probe.write block offset data).run probe
      = .ok (answer, after)) :
    after.faults.answers = probe.faults.answers
      ∧ (answer = false ∧ after.device = probe.device
        ∨ (BlockDevice.write block offset data).run probe.device
          = .ok (answer, after.device)) := by
  rw [Probe.run_write] at run
  by_cases failing : block ∈ probe.faults.writes
  · simp only [if_pos failing] at run
    cases run
    exact ⟨rfl, Or.inl ⟨rfl, rfl⟩⟩
  · simp only [if_neg failing] at run
    split at run
    · obtain ⟨faults, passed⟩ := pass_eq_ok run
      exact ⟨congrArg Probe.Faults.answers faults, Or.inr passed⟩
    · cases run
      exact ⟨rfl, Or.inl ⟨rfl, rfl⟩⟩
    · -- The count of writes that are left is all that changes.
      obtain ⟨faults, passed⟩ := pass_eq_ok run
      have answers := congrArg Probe.Faults.answers faults
      exact ⟨answers, Or.inr passed⟩

/-- A request gets the answer that was set for it, is failed or passed
on. -/
theorem probe_control_cases {request : Control} {answer : Int}
    (run : (Probe.control request).run probe = .ok (answer, after)) :
    after.faults = probe.faults
      ∧ (Keyed.get? probe.faults.answers request.code = some answer
          ∧ after.device = probe.device
        ∨ (∃ block, request = .erase block) ∧ answer = -1
          ∧ after.device = probe.device
        ∨ (BlockDevice.control request).run probe.device
          = .ok (answer, after.device)) := by
  rw [Probe.run_control] at run
  cases set : Keyed.get? probe.faults.answers request.code with
  | some told =>
    simp only [set] at run
    cases run
    exact ⟨rfl, Or.inl ⟨rfl, rfl⟩⟩
  | none =>
    simp only [set] at run
    cases request with
    | erase block =>
      by_cases failing : block ∈ probe.faults.erases
      · simp only [if_pos failing] at run
        cases run
        exact ⟨rfl, Or.inr (Or.inl ⟨⟨block, rfl⟩, rfl, rfl⟩)⟩
      · simp only [if_neg failing] at run
        obtain ⟨faults, passed⟩ := pass_eq_ok run
        exact ⟨faults, Or.inr (Or.inr passed)⟩
    | start | shutdown | sync | blockCount | blockSize =>
      obtain ⟨faults, passed⟩ := pass_eq_ok run
      exact ⟨faults, Or.inr (Or.inr passed)⟩

end

/-- The answers that a probe makes up are failures, and none of them is
about the geometry. -/
def OnlyFails (faults : Probe.Faults) : Prop :=
  ∀ code answer, Keyed.get? faults.answers code = some answer →
    answer < 0 ∧ code ≠ Control.blockSize.code
      ∧ code ≠ Control.blockCount.code

theorem OnlyFails.congr {faults other : Probe.Faults}
    (only : OnlyFails faults) (same : other.answers = faults.answers) :
    OnlyFails other := by
  intro code answer set
  rw [same] at set
  exact only code answer set

/-- A probe in front of a layer, as long as it only fails calls. -/
def Layer.probe {σ : Type} [BlockDevice σ] (layer : Layer σ) :
    Layer (Probe σ) where
  disk probe := layer.disk probe.device
  honest probe := layer.honest probe.device ∧ OnlyFails probe.faults
  read_stays := by
    intro block offset length probe after answer ⟨honest, only⟩ run
    obtain ⟨faults, same | passed⟩ := probe_read_cases run
    · rw [same]
      exact ⟨⟨honest, only.congr faults⟩, rfl⟩
    · obtain ⟨stays, geometry⟩ := layer.read_stays honest passed
      exact ⟨⟨stays, only.congr faults⟩, geometry⟩
  write_stays := by
    intro block offset data probe after answer ⟨honest, only⟩ run
    obtain ⟨faults, ⟨_, same⟩ | passed⟩ := probe_write_cases run
    · rw [same]
      exact ⟨⟨honest, only.congr faults⟩, rfl⟩
    · obtain ⟨stays, geometry⟩ := layer.write_stays honest passed
      exact ⟨⟨stays, only.congr faults⟩, geometry⟩
  control_stays := by
    intro request probe after answer ⟨honest, only⟩ run
    obtain ⟨faults, ⟨_, same⟩ | ⟨_, _, same⟩ | passed⟩ :=
      probe_control_cases run
    · rw [same, faults]
      exact ⟨⟨honest, only⟩, rfl⟩
    · rw [same, faults]
      exact ⟨⟨honest, only⟩, rfl⟩
    · obtain ⟨stays, geometry⟩ := layer.control_stays honest passed
      exact ⟨⟨stays, faults ▸ only⟩, geometry⟩
  write_done := by
    intro block offset data probe after ⟨honest, _⟩ run
    obtain ⟨_, ⟨failed, _⟩ | passed⟩ := probe_write_cases run
    · nomatch failed
    · exact layer.write_done honest passed
  control_done := by
    intro request probe after answer ⟨honest, only⟩ success run
    obtain ⟨_, ⟨set, _⟩ | ⟨_, failed, _⟩ | passed⟩ :=
      probe_control_cases run
    · have failed := (only _ _ set).1
      omega
    · omega
    · exact layer.control_done honest success passed
  truthful := by
    intro request probe after answer ⟨honest, only⟩ geometry run
    obtain ⟨_, ⟨set, _⟩ | ⟨⟨block, erase⟩, _⟩ | passed⟩ :=
      probe_control_cases run
    · obtain ⟨_, notSize, notCount⟩ := only _ _ set
      cases geometry with
      | inl size => exact absurd (congrArg Control.code size) notSize
      | inr count => exact absurd (congrArg Control.code count) notCount
    · cases geometry with
      | inl size => nomatch size.symm.trans erase
      | inr count => nomatch count.symm.trans erase
    · exact layer.truthful honest geometry passed

/-! ### Devices on which a failed call does nothing -/

section

variable {σ : Type} [BlockDevice σ] {layer : Layer σ}

/-- A call that fails leaves the disk as it is. -/
structure Layer.FailStop (layer : Layer σ) : Prop where
  write_failed {block : Nat} {data : Bytes} {state after : σ} :
    layer.honest state →
    (BlockDevice.write block 0 data).run state = .ok (false, after) →
    layer.disk after = layer.disk state
  control_failed {request : Control} {state after : σ} {answer : Int} :
    layer.honest state → answer < 0 →
    (BlockDevice.control request).run state = .ok (answer, after) →
    layer.disk after = layer.disk state

theorem failStop_direct : Layer.direct.FailStop where
  write_failed _ run := by
    cases eq_or_eq_of_ite run with
    | inl done => nomatch done
    | inr failed =>
      cases failed
      rfl
  control_failed := by
    intro request disk after answer _ failed run
    cases request with
    | start | shutdown | sync | blockSize | blockCount =>
      exact same_of_control (by simp) run
    | erase block =>
      cases eq_or_eq_of_ite run with
      | inl same | inr same =>
        cases same
        first | rfl | nomatch failed

/-- A probe fails calls without passing them on. -/
theorem failStop_probe (stops : layer.FailStop) :
    layer.probe.FailStop where
  write_failed := by
    intro block data probe after ⟨honest, _⟩ run
    obtain ⟨_, ⟨_, same⟩ | passed⟩ := probe_write_cases run
    · exact congrArg layer.disk same
    · exact stops.write_failed honest passed
  control_failed := by
    intro request probe after answer ⟨honest, _⟩ failed run
    obtain ⟨_, ⟨_, same⟩ | ⟨_, _, same⟩ | passed⟩ := probe_control_cases run
    · exact congrArg layer.disk same
    · exact congrArg layer.disk same
    · exact stops.control_failed honest failed passed

end

/-! ### What a medium shows -/

section

variable {σ α : Type} [BlockDevice σ]

namespace Layer

/-- The layer keeps its promises, and this is the geometry of the disk. -/
def Has (layer : Layer σ) (geometry : Geometry) (medium : Medium σ) :
    Prop :=
  layer.honest medium.device
    ∧ geometryOf (layer.disk medium.device) = geometry

/-- The layer keeps its promises, this is the disk behind it, and these
are the events so far. -/
structure Shows (layer : Layer σ) (disk : RamDisk) (events : List Event)
    (medium : Medium σ) : Prop where
  honest : layer.honest medium.device
  disk : layer.disk medium.device = disk
  events : medium.events = events

end Layer

variable {layer : Layer σ} {geometry : Geometry} {disk : RamDisk}
  {events : List Event}

theorem has_of_shows {medium : Medium σ}
    (shows : layer.Shows disk events medium) :
    layer.Has (geometryOf disk) medium := by
  constructor
  · exact shows.honest
  · rw [shows.disk]

/-- No event says anything about the device. -/
theorem keeps_note (event : Event) :
    Keeps (layer.Has geometry) (Medium.note event) :=
  keeps_modify fun _ has => has

theorem keeps_ask {call : Call σ α}
    (stays : ∀ {state after answer}, layer.honest state →
      call.run state = .ok (answer, after) →
      layer.honest after
        ∧ geometryOf (layer.disk after) = geometryOf (layer.disk state)) :
    Keeps (layer.Has geometry) (Medium.ask call) := by
  -- Whatever the answer is, the state behind it is still honest.
  intro medium ⟨honest, same⟩
  rw [Medium.run_ask]
  cases ending : call.run medium.device with
  | error trap => trivial
  | ok answer =>
    obtain ⟨still, geometry⟩ := stays honest ending
    exact ⟨still, geometry.trans same⟩

theorem keeps_control (request : Control) :
    Keeps (layer.Has geometry) (Medium.control request) := by
  refine keeps_bind (keeps_ask layer.control_stays) ?_
  intro answer
  exact keeps_ite (fun _ => keeps_refuse _) (fun _ => keeps_pure _)

theorem keeps_read (block length : Nat) :
    Keeps (layer.Has geometry)
      (Medium.ask (BlockDevice.read block 0 length)) :=
  keeps_ask layer.read_stays

section

variable {inv : Medium σ → Prop}
  (reads : ∀ block length,
    Keeps inv (Medium.ask (BlockDevice.read block 0 length)))

include reads

/-- What single reads keep is kept by all that is done with them. -/
theorem keeps_readBlock (block length : Nat) :
    Keeps inv (Medium.readBlock block length) := by
  refine keeps_bind (reads block length) ?_
  intro found
  cases found with
  | some data => exact keeps_pure _
  | none => exact keeps_refuse _

theorem keeps_readBlocks (blockSize block length : Nat) (before : Bytes) :
    Keeps inv (Medium.readBlocks blockSize block length before) := by
  fun_induction
    (Medium.readBlocks blockSize block length before :
      Action (Medium σ) Bytes) with
  | case1 block length before more ih =>
    exact keeps_bind (keeps_readBlock reads _ _) ih
  | case2 block length before none => exact keeps_pure _

end

/-- The numbers that a layer tells are those of the disk, and asking for
them leaves the disk as it is. -/
theorem told_blockSize {state after : σ} {answer : Int}
    (suitable : Suitable (geometryOf (layer.disk state)))
    (honest : layer.honest state)
    (run : (BlockDevice.control .blockSize).run state
      = .ok (answer, after)) :
    answer = (layer.disk state).blockSize
      ∧ layer.disk after = layer.disk state := by
  -- A size that fits a superblock is told as it is.
  have told := layer.truthful honest (Or.inl rfl) run
  obtain ⟨told, same⟩ := Prod.mk.inj (Except.ok.inj told)
  have small := suitable.small
  have size : (layer.disk state).blockSize
      ≤ (geometryOf (layer.disk state)).capacity :=
    suitable.blockSize_le_capacity
  have limits : fieldLimit < sizeLimit := by decide
  rw [← told, ← same, signedWord_of_lt (by omega)]
  exact ⟨rfl, rfl⟩

theorem told_blockCount {state after : σ} {answer : Int}
    (suitable : Suitable (geometryOf (layer.disk state)))
    (honest : layer.honest state)
    (run : (BlockDevice.control .blockCount).run state
      = .ok (answer, after)) :
    answer = (geometryOf (layer.disk state)).blockCount
      ∧ layer.disk after = layer.disk state := by
  have told : (if (layer.disk state).blockSize = 0 then
        .error Trap.zeroBlockSize
      else .ok (signedWord (geometryOf (layer.disk state)).blockCount,
        layer.disk state)) = Except.ok (answer, layer.disk after) :=
    layer.truthful honest (Or.inr rfl) run
  have some : (layer.disk state).blockSize ≠ 0 :=
    Nat.ne_of_gt suitable.blockSize_pos
  rw [if_neg some] at told
  obtain ⟨told, same⟩ := Prod.mk.inj (Except.ok.inj told)
  have few := suitable.blockCount_lt
  have limits : fieldLimit < sizeLimit := by decide
  rw [← told, ← same, signedWord_of_lt (by omega)]
  exact ⟨rfl, rfl⟩

theorem ensures_blockSize (suitable : Suitable (geometryOf disk)) :
    Ensures (layer.Shows disk events) (Medium.ask BlockDevice.blockSize)
      (fun found medium => found = some disk.blockSize
        ∧ layer.Shows disk events medium)
      (fun _ => layer.Has (geometryOf disk)) := by
  intro medium shows
  have same := shows.disk
  subst same
  rw [Medium.run_ask, BlockDevice.run_blockSize]
  cases run : (BlockDevice.control .blockSize).run medium.device with
  | error trap => trivial
  | ok answer =>
    obtain ⟨told, after⟩ := answer
    have stays := layer.control_stays shows.honest run
    obtain ⟨size, same⟩ := told_blockSize suitable shows.honest run
    have positive : (0 : Int) < (layer.disk medium.device).blockSize :=
      Int.natCast_pos.mpr suitable.blockSize_pos
    refine ⟨?_, stays.1, same, shows.events⟩
    rw [size, if_pos positive, Int.toNat_natCast]

theorem ensures_blockCount (suitable : Suitable (geometryOf disk)) :
    Ensures (layer.Shows disk events) (Medium.ask BlockDevice.blockCount)
      (fun found medium => found = some (geometryOf disk).blockCount
        ∧ layer.Shows disk events medium)
      (fun _ => layer.Has (geometryOf disk)) := by
  intro medium shows
  have same := shows.disk
  subst same
  rw [Medium.run_ask, BlockDevice.run_blockCount]
  cases run : (BlockDevice.control .blockCount).run medium.device with
  | error trap => trivial
  | ok answer =>
    obtain ⟨told, after⟩ := answer
    have stays := layer.control_stays shows.honest run
    obtain ⟨count, same⟩ := told_blockCount suitable shows.honest run
    have counted : (0 : Int)
        ≤ (geometryOf (layer.disk medium.device)).blockCount :=
      Int.natCast_nonneg _
    refine ⟨?_, stays.1, same, shows.events⟩
    rw [count, if_pos counted, Int.toNat_natCast]

/-- The geometry that is found is that of the disk. -/
theorem ensures_geometry (suitable : Suitable (geometryOf disk)) :
    Ensures (layer.Shows disk events) Medium.geometry
      (fun found medium => found = geometryOf disk
        ∧ layer.Shows disk events medium)
      (fun _ => layer.Has (geometryOf disk)) := by
  refine ensures_bind (ensures_blockSize suitable) ?_
  intro size medium ⟨foundSize, shows⟩
  subst foundSize
  refine ensures_bind (ensures_blockCount suitable) (fun count => ?_)
    medium shows
  intro medium ⟨foundCount, shows⟩
  subst foundCount
  exact ⟨rfl, shows⟩

end

end MountSpace.Proofs.Storage
