import MountSpace.Proofs.Storage.Calls

/-!
# `MountSpace.Proofs.Storage.Undisturbed`: devices that nobody writes to

Only a write or an erasure changes what is on a device. A probe in front of
it keeps a list of the calls, so that it can be said of an operation that it
makes none of the two, whatever the device answers.

* `Changes`: the calls that change a device. `Lasting`: what is said about a
  device that no other call changes.
* `Undisturbed`: a probe that has passed on no such call. It is what reads,
  questions for numbers and loading a tree leave (`keeps_load`).
* `ensures_store_noSpace`: a tree that is refused for want of room
  was refused before any such call, or its numbers do not fit the superblock
  and all of its image has been written.
-/

set_option autoImplicit false

namespace MountSpace.Proofs.Storage

open Effects Trees

/-! ### Calls that change a device -/

/-- Calls that change what is on a device. -/
def Changes : Probe.Observed → Prop
  | .write _ _ _ | .control (.erase _) => True
  | .read _ _ _ | .control _ => False

section

variable {σ : Type} [BlockDevice σ]

/-- Something about a device that stays the same while it is only read, and
asked for anything but an erasure. -/
structure Lasting {γ : Type} (view : σ → γ) : Prop where
  read {block offset length : Nat} {state after : σ}
    {answer : Option (Vector UInt8 length)} :
    (BlockDevice.read block offset length).run state = .ok (answer, after) →
    view after = view state
  control {request : Control} {state after : σ} {answer : Int} :
    ¬ Changes (.control request) →
    (BlockDevice.control request).run state = .ok (answer, after) →
    view after = view state

/-- All of a disk lasts. -/
theorem lasting_disk : Lasting (id : RamDisk → RamDisk) where
  read run := by
    cases eq_or_eq_of_ite run with
    | inl same | inr same =>
      cases same
      rfl
  control := by
    intro request disk after answer harmless run
    refine same_of_control ?_ run
    rintro block rfl
    exact harmless trivial

/-- Between two states of a probe, no call that changes the device behind
has been made. -/
structure Undisturbed (before after : Probe σ) : Prop where
  calls : ∃ made, after.calls = made ++ before.calls
    ∧ ∀ call ∈ made, ¬ Changes call
  same : ∀ {γ : Type} (view : σ → γ), Lasting view →
    view after.device = view before.device

namespace Undisturbed

variable {probe between after : Probe σ}

protected theorem refl (probe : Probe σ) : Undisturbed probe probe where
  calls := ⟨[], rfl, fun _ none => absurd none List.not_mem_nil⟩
  same _ _ := rfl

protected theorem trans (first : Undisturbed probe between)
    (second : Undisturbed between after) : Undisturbed probe after where
  calls := by
    obtain ⟨early, earlier, harmless⟩ := first.calls
    obtain ⟨late, later, harmlessLate⟩ := second.calls
    refine ⟨late ++ early, by rw [later, earlier, List.append_assoc], ?_⟩
    intro call made
    cases List.mem_append.mp made with
    | inl late => exact harmlessLate call late
    | inr early => exact harmless call early
  same view lasting :=
    (second.same view lasting).trans (first.same view lasting)

/-- One call that is seen. -/
theorem of_call {call : Probe.Observed} (harmless : ¬ Changes call)
    (seen : after.calls = call :: probe.calls)
    (same : ∀ {γ : Type} (view : σ → γ), Lasting view →
      view after.device = view probe.device) :
    Undisturbed probe after where
  calls := by
    refine ⟨[call], seen, fun other isOne => ?_⟩
    rw [List.mem_singleton.mp isOne]
    exact harmless
  same := same

end Undisturbed

end

/-! ### Calls that a probe sees -/

section

variable {σ α : Type} {probe after : Probe σ}

theorem calls_pass {call : Call σ α} {answer : α}
    (run : (Probe.pass call).run probe = .ok (answer, after)) :
    after.calls = probe.calls := by
  rw [Probe.run_pass] at run
  cases ending : call.run probe.device with
  | error trap =>
    rw [ending] at run
    cases run
  | ok result =>
    rw [ending] at run
    cases run
    rfl

variable [BlockDevice σ] {block offset length : Nat}

/-- Every call is seen, be it failed or passed on. -/
theorem calls_read {answer : Option (Vector UInt8 length)}
    (run : (Probe.read block offset length).run probe
      = .ok (answer, after)) :
    after.calls = .read block offset length :: probe.calls := by
  rw [Probe.run_read] at run
  by_cases failing : block ∈ probe.faults.reads
  · simp only [if_pos failing] at run
    cases run
    rfl
  · simp only [if_neg failing] at run
    exact calls_pass run

theorem calls_write {data : Bytes} {answer : Bool}
    (run : (Probe.write block offset data).run probe
      = .ok (answer, after)) :
    after.calls = .write block offset data.length :: probe.calls := by
  rw [Probe.run_write] at run
  by_cases failing : block ∈ probe.faults.writes
  · simp only [if_pos failing] at run
    cases run
    rfl
  · simp only [if_neg failing] at run
    split at run
    · exact calls_pass run
    · cases run
      rfl
    · exact calls_pass run

theorem calls_control {request : Control} {answer : Int}
    (run : (Probe.control request).run probe = .ok (answer, after)) :
    after.calls = .control request :: probe.calls := by
  rw [Probe.run_control] at run
  cases set : Keyed.get? probe.faults.answers request.code with
  | some told =>
    simp only [set] at run
    cases run
    rfl
  | none =>
    simp only [set] at run
    cases request with
    | erase block =>
      by_cases failing : block ∈ probe.faults.erases
      · simp only [if_pos failing] at run
        cases run
        rfl
      · simp only [if_neg failing] at run
        exact calls_pass run
    | start | shutdown | sync | blockCount | blockSize =>
      exact calls_pass run

end

/-! ### Operations that leave a device undisturbed -/

section

variable {σ α β : Type} [BlockDevice σ]

/-- A call of a probe after which the device behind is undisturbed. -/
def Harmless (call : Call (Probe σ) α) : Prop :=
  ∀ {probe after : Probe σ} {answer : α},
    call.run probe = .ok (answer, after) → Undisturbed probe after

theorem harmless_read (block offset length : Nat) :
    Harmless (σ := σ) (BlockDevice.read block offset length) := by
  intro probe after answer run
  have harmless : ¬ Changes (.read block offset length) := id
  refine .of_call harmless (calls_read run) fun view lasting => ?_
  obtain ⟨_, same | passed⟩ := probe_read_cases run
  · rw [same]
  · exact lasting.read passed

theorem harmless_control {request : Control}
    (harmless : ¬ Changes (.control request)) :
    Harmless (σ := σ) (BlockDevice.control request) := by
  intro probe after answer run
  refine .of_call harmless (calls_control run) fun view lasting => ?_
  obtain ⟨_, ⟨_, same⟩ | ⟨_, _, same⟩ | passed⟩ := probe_control_cases run
  · rw [same]
  · rw [same]
  · exact lasting.control harmless passed

/-- The size of a block and the number of blocks are asked for, and no more
is done about them. -/
theorem harmless_blockSize :
    Harmless (BlockDevice.blockSize : Call (Probe σ) (Option Nat)) := by
  intro probe after answer run
  rw [BlockDevice.run_blockSize] at run
  cases told : (BlockDevice.control .blockSize).run probe with
  | error trap =>
    rw [told] at run
    cases run
  | ok result =>
    rw [told] at run
    cases run
    exact harmless_control id told

theorem harmless_blockCount :
    Harmless (BlockDevice.blockCount : Call (Probe σ) (Option Nat)) := by
  intro probe after answer run
  rw [BlockDevice.run_blockCount] at run
  cases told : (BlockDevice.control .blockCount).run probe with
  | error trap =>
    rw [told] at run
    cases run
  | ok result =>
    rw [told] at run
    cases run
    exact harmless_control id told

/-- The device of a medium has been left undisturbed since then. -/
def Spared (before : Probe σ) (medium : Medium (Probe σ)) : Prop :=
  Undisturbed before medium.device

variable {before : Probe σ}

theorem keeps_ask_spared {call : Call (Probe σ) α} (harmless : Harmless call) :
    Keeps (Spared before) (Medium.ask call) := by
  intro medium spared
  rw [Medium.run_ask]
  cases run : call.run medium.device with
  | error trap => trivial
  | ok result => exact spared.trans (harmless run)

theorem keeps_read_spared (block length : Nat) :
    Keeps (Spared before)
      (Medium.ask (BlockDevice.read block 0 length)) :=
  keeps_ask_spared (harmless_read block 0 length)

theorem keeps_note_spared (event : Event) :
    Keeps (Spared before) (Medium.note event) :=
  keeps_modify fun _ spared => spared

theorem keeps_control_spared {request : Control}
    (harmless : ¬ Changes (.control request)) :
    Keeps (Spared before) (Medium.control request) := by
  refine keeps_bind (keeps_ask_spared (harmless_control harmless))
    fun answer => ?_
  exact keeps_ite (fun _ => keeps_refuse _) (fun _ => keeps_pure _)

theorem keeps_geometry_spared : Keeps (Spared before) Medium.geometry := by
  refine keeps_bind (keeps_ask_spared harmless_blockSize) fun size => ?_
  cases size with
  | none => exact keeps_refuse _
  | some size =>
    refine keeps_bind (keeps_ask_spared harmless_blockCount) fun count => ?_
    cases count with
    | none => exact keeps_refuse _
    | some count => exact keeps_pure _

/-- To load a tree is to read. -/
theorem keeps_load_spared (geometry : Geometry) :
    Keeps (Spared before) (Tree.load geometry) :=
  (ensures_load keeps_read_spared geometry).imp (fun _ spared => spared)
    (fun _ _ known => known.2) (fun _ _ spared => spared)

end

/-! ### Trees that are refused -/

/-- The call that is seen when this one is made. -/
def Work.observed : Work → Probe.Observed
  | erase block => .control (.erase block)
  | write block data => .write block 0 data.length
  | sync => .control .sync

section

variable {σ : Type} [BlockDevice σ] {before : Probe σ}

/-- The calls that put an image behind the first block have been made, and
before them none that changes the device. -/
def Overwritten (before : Probe σ) (blockSize : Nat) (image : Bytes)
    (medium : Medium (Probe σ)) : Prop :=
  ∃ earlier, medium.device.calls
      = ((replacing blockSize 1 image).map Work.observed).reverse
        ++ (earlier ++ before.calls)
    ∧ ∀ call ∈ earlier, ¬ Changes call

/-- An image that has room on the device has been written, but its superblock
cannot be, for it cannot tell the numbers. -/
structure InVain (before : Probe σ) (geometry : Geometry) (root : Tree)
    (medium : Medium (Probe σ)) : Prop where
  fits : root.encode.length ≤ geometry.capacity
  untold : ¬ Fields geometry root.encode.length
  written : Overwritten before geometry.blockSize root.encode medium

/-- Every work is one call, and is refused as a failure of the device. -/
theorem ensures_make_calls (work : Work) (calls : List Probe.Observed) :
    Ensures (fun medium : Medium (Probe σ) => medium.device.calls = calls)
      work.make
      (fun _ medium => medium.device.calls = work.observed :: calls)
      (fun fault _ => fault = .ioError) := by
  rintro medium rfl
  cases work with
  | erase block =>
    rw [Work.make, run_accept, BlockDevice.run_eraseBlock]
    cases run : (BlockDevice.control (.erase block)).run medium.device with
    | error trap => trivial
    | ok answer =>
      obtain ⟨told, after⟩ := answer
      have seen := calls_control run
      by_cases success : 0 ≤ told
      · simp only [success, decide_true]
        exact seen
      · simp only [success, decide_false]
        rfl
  | write block data =>
    rw [Work.make, run_accept]
    cases run : (BlockDevice.write block 0 data).run medium.device with
    | error trap => trivial
    | ok answer =>
      obtain ⟨written, after⟩ := answer
      have seen := calls_write run
      cases written with
      | true => exact seen
      | false => rfl
  | sync =>
    rw [Work.make, Medium.run_control]
    cases run : (BlockDevice.control .sync).run medium.device with
    | error trap => trivial
    | ok answer =>
      obtain ⟨told, after⟩ := answer
      have seen := calls_control run
      by_cases failed : told < 0
      · simp only [if_pos failed]
        rfl
      · simp only [if_neg failed]
        exact seen

theorem ensures_makeAll_calls (works : List Work)
    (calls : List Probe.Observed) :
    Ensures (fun medium : Medium (Probe σ) => medium.device.calls = calls)
      (makeAll works)
      (fun _ medium => medium.device.calls
        = (works.map Work.observed).reverse ++ calls)
      (fun fault _ => fault = .ioError) := by
  induction works generalizing calls with
  | nil => exact fun _ seen => seen
  | cons work works ih =>
    refine ensures_bind (ensures_make_calls work calls) fun _ => ?_
    refine (ih (work.observed :: calls)).imp (fun _ seen => seen) ?_
      (fun _ _ io => io)
    intro _ medium seen
    rw [seen, List.map_cons, List.reverse_cons, List.append_assoc]
    rfl

/-- What follows the image of a tree is refused for want of room only if the
superblock cannot tell the numbers, and then nothing has followed. -/
theorem ensures_heading_noSpace (geometry : Geometry) (imageLength : Nat)
    (inv : Medium (Probe σ) → Prop) :
    Ensures inv
      (do
        let superblock ← Action.ofExcept (geometry.superblock imageLength)
        Medium.replaceBlock 0 superblock.encode
        Medium.control .sync
        Medium.note (.imageCommitted imageLength))
      (fun _ _ => True)
      (fun fault medium => fault = .noSpace →
        ¬ Fields geometry imageLength ∧ inv medium) := by
  intro medium start
  cases written : geometry.superblock imageLength with
  | error fault =>
    refine fun _ => ⟨fun fields => ?_, start⟩
    cases (superblock_eq fields).symm.trans written
  | ok superblock =>
    have io : Ensures (fun other : Medium (Probe σ) =>
          other.device.calls = medium.device.calls)
        (makeAll (heading superblock)
          >>= fun _ => Medium.note (.imageCommitted imageLength))
        (fun _ _ => True) (fun fault _ => fault = .ioError) :=
      ensures_bind (ensures_makeAll_calls _ _) fun _ _ _ => trivial
    rw [← heading_eq] at io
    refine (io medium rfl).imp (fun _ _ _ => trivial) ?_
    intro fault _ failed want
    cases failed.symm.trans want

/-- A tree that is refused for want of room was refused before any call that
changes the device, or has been written in vain. -/
theorem ensures_store_noSpace (geometry : Geometry) (root : Tree) :
    Ensures (Spared before) (root.store geometry) (fun _ _ => True)
      (fun fault medium => fault = .noSpace →
        Spared before medium ∨ InVain before geometry root medium) := by
  have asked : Ensures (Spared before) geometry.room
      (fun capacity medium => capacity = geometry.capacity
        ∧ Spared before medium) (fun _ _ => False) := by
    intro medium spared
    rw [Geometry.room]
    split
    · exact ⟨rfl, spared⟩
    · trivial
  refine ensures_bind (asked.refusing fun _ _ none => none.elim)
    fun capacity => ?_
  rintro medium ⟨rfl, spared⟩
  by_cases tooLong : geometry.capacity < root.encode.length
  · -- Of a tree that is too long a note is made, and nothing else.
    rw [if_pos tooLong]
    exact fun _ => .inl spared
  · rw [if_neg tooLong, replaceBlocks_eq]
    have fits := Nat.not_lt.mp tooLong
    obtain ⟨earlier, seen, harmless⟩ := spared.calls
    have image : Ensures (fun other : Medium (Probe σ) =>
          other.device.calls = earlier ++ before.calls)
        (makeAll (replacing geometry.blockSize 1 root.encode))
        (fun _ => Overwritten before geometry.blockSize root.encode)
        (fun fault _ => fault = .ioError) :=
      (ensures_makeAll_calls _ _).imp (fun _ start => start)
        (fun _ _ made => ⟨earlier, made, harmless⟩) (fun _ _ io => io)
    have failing (fault : Fault) (other : Medium (Probe σ))
        (failed : fault = .ioError) (want : fault = .noSpace) :
        Spared before other ∨ InVain before geometry root other := by
      cases failed.symm.trans want
    refine ensures_bind (image.refusing failing) (fun _ => ?_) medium seen
    refine (ensures_heading_noSpace geometry _ _).imp (fun _ start => start)
      (fun _ _ _ => trivial) ?_
    intro fault after failed want
    obtain ⟨untold, written⟩ := failed want
    exact .inr ⟨fits, untold, written⟩

end

end MountSpace.Proofs.Storage
