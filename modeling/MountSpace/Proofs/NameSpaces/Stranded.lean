import MountSpace.Device.RamDisk
import MountSpace.Proofs.NameSpaces.Isolation

/-!
# `MountSpace.Proofs.NameSpaces.Stranded`: descriptors without a mount

A descriptor leads to the driver that has opened its file, and not to a
path. When the mount of that driver is taken out the descriptor stays in
use, but its driver has no tree any more and is behind no mount
(`Stranded`). That lasts until the descriptor is closed, whatever is mounted
in the meantime: to mount a device is to make a new driver for it, and no
file that is opened later gets a descriptor that is in use.

* `keeps_run_stranded`: every command but the one that closes it leaves a
  stranded descriptor stranded.
* `refused_after_unmount`: so no bytes can be moved through a descriptor
  once its mount is gone, and to close it only gives up the number.
-/

set_option autoImplicit false

namespace MountSpace.Proofs.NameSpaces

open Effects
open MountSpace.NameSpace
open Routing (remove_eq_ok)
open Volumes (AboutFiles ensures_unmounted)

/-! ### What happens until a descriptor is closed -/

section

variable {δ σ : Type} [Driver δ σ]

/-- What a name space can become as long as nobody closes the descriptor. -/
inductive Onward (others : World δ σ → World δ σ → Prop)
    (descriptor : Nat) (space : NameSpace δ σ) : NameSpace δ σ → Prop where
  | here : Onward others descriptor space space
  | outside {later : NameSpace δ σ} (world : World δ σ) :
    Onward others descriptor space later → others later.world world →
    Onward others descriptor space { later with world }
  | command {later after : NameSpace δ σ} {α : Type}
    (command : Command δ α) :
    Onward others descriptor space later →
    closing? command ≠ some descriptor →
    ((run command).run later).after? = some after →
    Onward others descriptor space after

/-- What is kept by all commands but the one to close it holds until
then. -/
theorem Onward.holds {others : World δ σ → World δ σ → Prop}
    {descriptor : Nat} {space later : NameSpace δ σ}
    {inv : NameSpace δ σ → Prop}
    (onward : Onward others descriptor space later) (start : inv space)
    (outside : ∀ space world, inv space → others space.world world →
      inv { space with world })
    (keeps : ∀ {α : Type} (command : Command δ α),
      closing? command ≠ some descriptor → Keeps inv (run command)) :
    inv later := by
  induction onward with
  | here => exact start
  | outside world _ change ih => exact outside _ world ih change
  | command command _ other left ih =>
    exact (keeps command other).of_after? ih left

theorem Onward.afterAll {others : World δ σ → World δ σ → Prop}
    {descriptor : Nat} {space later after : NameSpace δ σ}
    (onward : Onward others descriptor space later)
    {commands : List (Command δ Unit)}
    (spare : ∀ command ∈ commands, closing? command ≠ some descriptor)
    (left : afterAll commands later = some after) :
    Onward others descriptor space after := by
  induction commands generalizing later with
  | nil => exact Option.some.inj left ▸ onward
  | cons command rest ih =>
    obtain ⟨next, first, others⟩ := Option.bind_eq_some_iff.mp left
    obtain ⟨other, spare⟩ := List.forall_mem_cons.mp spare
    exact ih (onward.command command other first) spare others

end

/-! ### Stranded descriptors -/

variable {σ α : Type}

/-- A volume, mounted or not. -/
def IsVolume (backend : Backend) : Prop :=
  ∃ volume, backend = .volume volume

/-- A volume that has no tree. -/
def Detached (backend : Backend) : Prop :=
  backend = .volume ⟨none⟩

/-- A descriptor is in use, and its driver is behind no mount. -/
structure Stranded (good : Backend → Prop) (descriptor : Nat)
    (opened : OpenFile DriverId) (space : NameSpace Backend σ) : Prop where
  held : space.descriptors.get descriptor = .ok opened
  spare : opened.driver ∉ space.mounts.map Mount.driver
  serves : Serves good space.world opened.driver

section

variable {good : Backend → Prop} {descriptor : Nat}
  {opened : OpenFile DriverId} {space : NameSpace Backend σ}
  {driver : DriverId}

theorem indifferent_stranded :
    Indifferent
      (Stranded good descriptor opened : NameSpace Backend σ → Prop) := by
  intro space other alike stranded
  refine ⟨?_, ?_, stranded.serves.alike alike⟩
  · rw [alike.descriptors]
    exact stranded.held
  · rw [alike.mounts]
    exact stranded.spare

theorem Stranded.outside (stranded : Stranded good descriptor opened space)
    {world : World Backend σ} (grown : Extends space.world world) :
    Stranded good descriptor opened { space with world } :=
  ⟨stranded.held, stranded.spare, stranded.serves.extends grown⟩

/-- Other drivers can do what they like. -/
theorem Stranded.putSite (stranded : Stranded good descriptor opened space)
    (different : driver ≠ opened.driver) (left : Site Backend σ) :
    Stranded good descriptor opened
      { space with world := World.putSite driver left space.world } :=
  ⟨stranded.held, stranded.spare,
    stranded.serves.putSite different.symm left⟩

/-- Other descriptors can be given out and freed. -/
theorem Stranded.descriptors
    (stranded : Stranded good descriptor opened space)
    {descriptors : DescriptorTable DriverId}
    (same : descriptors.get descriptor
      = space.descriptors.get descriptor) :
    Stranded good descriptor opened { space with descriptors } :=
  ⟨same.trans stranded.held, stranded.spare, stranded.serves⟩

variable [BlockDevice σ]

theorem keeps_call_different (different : driver ≠ opened.driver)
    (request : Request α) :
    Keeps (Stranded good descriptor opened : NameSpace Backend σ → Prop)
      (call driver request) := by
  refine ensures_call (fun _ stranded _ => stranded) ?_
  intro space site stranded _
  exact meets_of_forall _ (fun _ left => stranded.putSite different left)
    (fun _ left => stranded.putSite different left)

/-- The driver itself does nothing when it is asked about files. -/
theorem keeps_call_stranded {request : Request α}
    (files : AboutFiles request) :
    Keeps
      (Stranded Detached descriptor opened : NameSpace Backend σ → Prop)
      (call driver request) := by
  by_cases different : driver ≠ opened.driver
  · exact keeps_call_different different request
  rw [not_not.mp different]
  refine ensures_call (fun _ stranded _ => stranded) ?_
  intro space site stranded found
  have isIdle : Idle site.driver := by
    rw [stranded.serves.of_site? found]
    exact rfl
  refine ((retiring_idle.still files isIdle).apply rfl).imp ?_ ?_
  · rintro _ _ rfl
    rw [putSite_self found]
    exact stranded
  · rintro _ _ rfl
    rw [putSite_self found]
    exact stranded

theorem calm_stranded :
    Calm Scope.whole
      (Stranded Detached descriptor opened :
        NameSpace Backend σ → Prop) where
  note := indifferent_stranded.note
  ask _ passing := keeps_call_stranded passing.aboutFiles
  route _ _ _ _ _ _ := trivial
  hold _ _ _ _ _ := trivial

/-! ### Opening and closing -/

/-- A file that is opened gets another descriptor. -/
theorem ensures_openFile_stranded (path mode : String)
    (permissions : UInt32) :
    Ensures
      (Stranded Detached descriptor opened : NameSpace Backend σ → Prop)
      (openFile path mode permissions)
      (fun other space => other ≠ descriptor
        ∧ Stranded Detached descriptor opened space)
      (fun _ => Stranded Detached descriptor opened) := by
  have begins : Keeps
      (Stranded Detached descriptor opened : NameSpace Backend σ → Prop)
      (begin path mode permissions) := by
    refine keeps_bind (keeps_ofExcept _) fun flags => ?_
    refine keeps_bind (keeps_lookup calm_stranded _) ?_
    rintro ⟨mount, rest⟩
    exact keeps_bind (keeps_call_stranded trivial) fun _ => keeps_pure _
  rw [openFile_eq]
  refine ensures_bind begins fun file => ?_
  refine ensures_settle_of ?_ (keeps_call_stranded trivial)
    indifferent_stranded.note
  refine ensures_within fun space stranded => ?_
  refine (meets_alloc space.descriptors file).imp ?_ ?_
  · intro number after adds
    have different : number ≠ descriptor := by
      rintro rfl
      cases adds.free.symm.trans stranded.held
    refine ⟨different, stranded.descriptors ?_⟩
    rw [adds.get, if_neg different.symm]
  · rintro fault after ⟨_, _, same⟩
    exact stranded.descriptors (same descriptor)

theorem keeps_close_stranded {other : Nat} (different : other ≠ descriptor) :
    Keeps
      (Stranded Detached descriptor opened : NameSpace Backend σ → Prop)
      (close other) := by
  refine ensures_close_of ?_ (fun _ => keeps_call_stranded trivial)
    indifferent_stranded.note
  refine ensures_within fun space stranded => ?_
  refine (meets_close space.descriptors other).imp ?_ ?_
  · rintro file after ⟨_, drops⟩
    refine stranded.descriptors ?_
    rw [drops.get, if_neg different.symm]
  · rintro fault _ ⟨_, rfl⟩
    exact stranded

/-! ### Mounting and unmounting -/

omit [BlockDevice σ] in
/-- A driver that is added is another one. -/
theorem ensures_build_stranded (fsType : String) (device : DeviceId) :
    Ensures
      (Stranded good descriptor opened : NameSpace Backend σ → Prop)
      (build fsType device)
      (fun driver space => driver ≠ opened.driver
        ∧ Stranded good descriptor opened space)
      (fun _ => Stranded good descriptor opened) := by
  refine ensures_bind keeps_get fun _ => ?_
  refine ensures_bind (keeps_ofExcept _) fun fresh => ?_
  refine ensures_within fun space stranded => ?_
  obtain ⟨_, found, _⟩ := stranded.serves
  have inside := (List.getElem?_eq_some_iff.mp found).1
  exact ⟨(Nat.ne_of_lt inside).symm,
    stranded.outside ⟨Nat.le_refl _, List.prefix_append _ _⟩⟩

theorem mounting_stranded (device : DeviceId) :
    Mounting device
      (Stranded good descriptor opened : NameSpace Backend σ → Prop)
      (fun driver space => driver ≠ opened.driver
        ∧ Stranded good descriptor opened space)
      (fun driver space => driver ≠ opened.driver
        ∧ Stranded good descriptor opened space)
      (Stranded good descriptor opened) where
  early stranded := stranded
  given known := known.2
  build fsType := ensures_build_stranded fsType device
  noteAside driver event :=
    (keeps_fact _ _).and (indifferent_stranded.note event)
  format driver := by
    rintro space ⟨different, stranded⟩
    exact ((keeps_fact _ _).and
      (keeps_call_different different .format)).apply ⟨different, stranded⟩
  mount driver := by
    rintro space ⟨different, stranded⟩
    exact ((keeps_fact _ _).and
      (keeps_call_different different .mount)).apply ⟨different, stranded⟩
  enter path fsType driver := by
    rintro space ⟨different, stranded⟩
    refine ((ensures_enter_perm _ space).apply rfl).imp ?_ ?_
    · rintro _ _ ⟨mounts, perm, rfl⟩
      refine ⟨stranded.held, fun member => ?_, stranded.serves⟩
      cases List.mem_cons.mp ((perm.map Mount.driver).mem_iff.mp member) with
      | inl same => exact different same.symm
      | inr member => exact stranded.spare member
    · rintro _ _ rfl
      exact stranded
  noteAfter := indifferent_stranded.note

/-- A driver whose mount is taken out is another one as well. -/
theorem unmounting_stranded :
    Unmounting
      (fun _ => (Stranded good descriptor opened :
        NameSpace Backend σ → Prop))
      (fun driver space => driver ≠ opened.driver
        ∧ Stranded good descriptor opened space)
      (Stranded good descriptor opened) where
  withdraw path := by
    intro space stranded
    refine ((ensures_withdraw_perm path space).apply rfl).imp ?_ ?_
    · rintro mount _ ⟨mounts, perm, rfl⟩
      have spare := stranded.spare
      rw [(perm.map Mount.driver).mem_iff, List.map_cons, List.mem_cons,
        not_or] at spare
      exact ⟨fun same => spare.1 same.symm, stranded.held, spare.2,
        stranded.serves⟩
    · rintro _ _ rfl
      exact stranded
  noteRetired driver event :=
    (keeps_fact _ _).and (indifferent_stranded.note event)
  unmount driver := by
    rintro space ⟨different, stranded⟩
    exact (keeps_call_different different .unmount).apply stranded
  noteAfter := indifferent_stranded.note

/-! ### Commands -/

/-- A descriptor stays stranded until it is closed. -/
theorem keeps_run_stranded {command : Command Backend α}
    (other : closing? command ≠ some descriptor) :
    Keeps
      (Stranded Detached descriptor opened : NameSpace Backend σ → Prop)
      (run command) := by
  have closes {number : Nat} (different : number ≠ descriptor) :
      Keeps
        (Stranded Detached descriptor opened : NameSpace Backend σ → Prop)
        (close number) :=
    keeps_close_stranded different
  refine keeps_run_of_mounting indifferent_stranded calm_stranded
    mounting_stranded unmounting_stranded command ?_ ?_
  · intro opening is
    refine ensures_run_of_opening (ensures_openFile_stranded _ _ _)
      (fun _ => calm_stranded.fact _) (fun _ => trivial) (fun _ => trivial)
      (fun _ _ known => known.2) (fun number => ?_) is
    rintro space ⟨different, stranded⟩
    exact (closes different).apply stranded
  · rintro number is
    refine closes ?_
    rintro rfl
    exact other is

/-! ### The unmount -/

/-- A driver that has been asked to unmount has no tree, done or refused. -/
theorem ensures_detached :
    Ensures
      (Stranded IsVolume descriptor opened : NameSpace Backend σ → Prop)
      (call opened.driver .unmount)
      (fun _ => Stranded Detached descriptor opened)
      (fun _ => Stranded Detached descriptor opened) := by
  refine ensures_call ?_ ?_
  · intro space stranded missing
    obtain ⟨site, found, _⟩ := stranded.serves.site?
    cases missing.symm.trans found
  · rintro space ⟨backend, medium⟩ stranded found
    obtain ⟨volume, rfl⟩ := stranded.serves.of_site? found
    have step (left : Site Volume σ) (driver : left.driver = ⟨none⟩) :
        Stranded Detached descriptor opened { space with
          world := World.putSite opened.driver
            ⟨.volume left.driver, left.medium⟩ space.world } :=
      ⟨stranded.held, stranded.spare,
        serves_putSite found (congrArg Backend.volume driver)⟩
    refine meets_hosting volume Backend.volume ?_
    exact (ensures_unmounted.apply trivial).imp (fun _ => step)
      (fun _ => step)

omit [BlockDevice σ] in
/-- A mount that is taken out takes its driver along, and no other mount
has it. -/
theorem meets_withdraw_stranded {path : String}
    (serving : Serving (fun _ => True) space)
    (held : space.descriptors.get descriptor = .ok opened)
    (isVolume : ∃ volume,
      space.world.driver? opened.driver = some (.volume volume))
    (mounted : mountedAt space path = some opened.driver) :
    Meets
      (fun mount state => mount.driver = opened.driver
        ∧ Stranded IsVolume descriptor opened state)
      (fun _ _ => False)
      ((withdraw (Path.resolve space.directory path)).run space) := by
  have aside := (ensures_withdraw (Path.resolve space.directory path)).apply
    serving
  rw [mountedAt] at mounted
  rw [run_withdraw] at aside ⊢
  cases removed : space.mounts.remove
      (Path.resolve space.directory path) with
  | error fault =>
    rw [removed] at mounted
    cases mounted
  | ok answer =>
    obtain ⟨mount, mounts⟩ := answer
    rw [removed] at mounted aside
    have same : mount.driver = opened.driver := Option.some.inj mounted
    obtain ⟨_, before, later, split, _⟩ := remove_eq_ok removed
    have member : mount ∈ space.mounts := by
      rw [split]
      exact List.mem_append_right _ List.mem_cons_self
    obtain ⟨installed, found, there, _⟩ := serving.serves mount member
    rw [same] at found
    obtain ⟨volume, known⟩ := isVolume
    rw [World.driver?, found] at known
    exact ⟨same, held, same ▸ aside.spare,
      ⟨installed, found, there, volume, Option.some.inj known⟩⟩

/-- A descriptor is stranded when the mount of its driver is taken out. -/
theorem stranded_of_unmount {path : String}
    {unmounted : NameSpace Backend σ}
    (serving : Serving (fun _ => True) space)
    (held : space.descriptors.get descriptor = .ok opened)
    (isVolume : ∃ volume,
      space.world.driver? opened.driver = some (.volume volume))
    (mounted : mountedAt space path = some opened.driver)
    (left : ((unmount path).run space).after? = some unmounted) :
    Stranded Detached descriptor opened unmounted := by
  have unmounting : Unmounting
      (fun resolved state => resolved = Path.resolve space.directory path
        ∧ state = space)
      (fun driver state => driver = opened.driver
        ∧ Stranded IsVolume descriptor opened state)
      (Stranded Detached descriptor opened) :=
    { withdraw := by
        rintro _ state ⟨rfl, rfl⟩
        exact (meets_withdraw_stranded serving held isVolume mounted).imp
          (fun _ _ known => known) (fun _ _ never => never.elim)
      noteRetired := fun driver event =>
        (keeps_fact _ _).and (indifferent_stranded.note event)
      unmount := by
        rintro driver state ⟨rfl, stranded⟩
        exact ensures_detached.apply stranded
      noteAfter := indifferent_stranded.note }
  have unmounts : Ensures (fun state => state = space) (unmount path)
      (fun _ => Stranded Detached descriptor opened)
      (fun _ => Stranded Detached descriptor opened) := by
    refine ensures_unmount unmounting ?_
    rintro _ rfl
    exact ⟨rfl, rfl⟩
  exact unmounts.of_after? rfl left

/-! ### What is answered -/

/-- A request that a volume without a tree refuses changes nothing. -/
theorem run_call_detached (space : NameSpace Backend σ)
    (serves : Serves Detached space.world driver) {request : Request α}
    (refuses : ∀ medium : Medium σ,
      (Volume.serve request).run ⟨⟨none⟩, medium⟩
        = .refused .noDevice ⟨⟨none⟩, medium⟩) :
    (call driver request).run space = .refused .noDevice space := by
  obtain ⟨⟨_, medium⟩, found, rfl⟩ := serves.site?
  refine run_call_of_refused found ?_
  rw [run_serve_volume, refuses]

section

variable (stranded : Stranded Detached descriptor opened space)

include stranded

theorem Stranded.run_receive (length : Nat) (position : Option Nat) :
    (call opened.driver (.read opened.file length position)).run space
      = .refused .noDevice space :=
  run_call_detached space stranded.serves fun _ => rfl

theorem Stranded.run_send (data : Bytes) (position : Option Nat) :
    (call opened.driver (.write opened.file data position)).run space
      = .refused .noDevice space :=
  run_call_detached space stranded.serves fun _ => rfl

theorem Stranded.run_read (buffer : Bytes) :
    (NameSpace.read descriptor buffer).run space
      = .refused .noDevice space := by
  simp only [NameSpace.read, receive, Action.run_bind,
    run_fileOf stranded.held, stranded.run_receive]

theorem Stranded.run_write (buffer : Bytes) :
    (write descriptor buffer).run space = .refused .noDevice space := by
  simp only [write, Action.run_bind, run_fileOf stranded.held,
    stranded.run_send]

theorem Stranded.run_readWith {buffer : Bytes} {offset length : Nat}
    (inside : offset + length ≤ buffer.length) (position : Option Nat) :
    (readWith descriptor buffer offset length position).run space
      = .refused .noDevice space := by
  simp only [readWith, Action.run_bind, run_fileOf stranded.held,
    run_requireWindow inside, stranded.run_receive]

theorem Stranded.run_writeWith {buffer : Bytes} {offset length : Nat}
    (inside : offset + length ≤ buffer.length) (position : Option Nat) :
    (writeWith descriptor buffer offset length position).run space
      = .refused .noDevice space := by
  simp only [writeWith, Action.run_bind, run_fileOf stranded.held,
    run_requireWindow inside, stranded.run_send]

/-- The number is free before the driver is asked. -/
theorem Stranded.run_close :
    ∃ descriptors, Drops space.descriptors descriptor descriptors
      ∧ (close descriptor).run space = .refused .noDevice
        { space with
          descriptors
          world := { space.world with
            events := .closeFailed descriptor .noDevice
              :: space.world.events } } := by
  have frees := run_close_of_ok stranded.held
  have drops := meets_close space.descriptors descriptor
  rw [frees] at drops
  have asked (descriptors : DescriptorTable DriverId) :
      (call opened.driver (.close opened.file)).run
          { space with descriptors }
        = .refused .noDevice { space with descriptors } :=
    run_call_detached { space with descriptors } stranded.serves
      fun _ => rfl
  refine ⟨_, drops.2, ?_⟩
  simp only [close, Action.run_bind, inDescriptors, Action.run_within, frees,
    Action.run_onRefusal, asked, run_note]
  rfl

end

/-- Once the mount of a volume has been taken out, whether or not the volume
could then be unmounted, a descriptor of a file that was opened there is good
for nothing any more, until it is closed and whatever is mounted until then:
reads and writes are refused and change nothing at all. To close the
descriptor frees it, and is refused as well; no driver and no device is
changed by that. -/
theorem refused_after_unmount
    {others : World Backend σ → World Backend σ → Prop}
    (calm : ∀ world later, others world later → Extends world later)
    {unmounted later : NameSpace Backend σ} {path : String}
    (reachable : Reachable others space)
    (held : space.descriptors.get descriptor = .ok opened)
    (isVolume : ∃ volume,
      space.world.driver? opened.driver = some (.volume volume))
    (mounted : mountedAt space path = some opened.driver)
    (left : ((unmount path).run space).after? = some unmounted)
    (onward : Onward others descriptor unmounted later) :
    (∀ buffer,
      (NameSpace.read descriptor buffer).run later
          = .refused .noDevice later
        ∧ (write descriptor buffer).run later = .refused .noDevice later
        ∧ ∀ offset length position, offset + length ≤ buffer.length →
          (readWith descriptor buffer offset length position).run later
              = .refused .noDevice later
            ∧ (writeWith descriptor buffer offset length position).run later
              = .refused .noDevice later)
    ∧ ∃ descriptors, Drops later.descriptors descriptor descriptors
      ∧ (close descriptor).run later = .refused .noDevice
        { later with
          descriptors
          world := { later.world with
            events := .closeFailed descriptor .noDevice
              :: later.world.events } } := by
  have serving := (backed_of_reachable retiring_idle calm reachable).serving
  have stranded : Stranded Detached descriptor opened later := by
    refine onward.holds
      (stranded_of_unmount serving held isVolume mounted left) ?_
      fun _ => keeps_run_stranded
    exact fun space world stranded change =>
      stranded.outside (calm _ _ change)
  refine ⟨fun buffer => ⟨stranded.run_read buffer, stranded.run_write buffer,
    fun offset length position inside => ?_⟩, stranded.run_close⟩
  exact ⟨stranded.run_readWith inside position,
    stranded.run_writeWith inside position⟩

end

/-- A file is made and opened on a volume, the volume is unmounted, and
another one is mounted in its place and gets a directory of that name. -/
def exchange : Option (NameSpace Backend RamDisk
    × NameSpace Backend RamDisk × NameSpace Backend RamDisk) := do
  let first ← afterAll rootVolume
    { (NameSpace.empty 16 : NameSpace Backend RamDisk) with
      world := ⟨[⟨96, 32, ∅⟩, ⟨96, 32, ∅⟩], [], []⟩ }
  let space ← ((openFile "/f" "w" defaultPermissions).run first).after?
  let unmounted ← ((unmount "/").run space).after?
  let later ← afterAll
    [.mount "/" 1 "blockfs" true, .makeDirectory "/f"] unmounted
  return (space, unmounted, later)

/-- The file of the first descriptor and whether its driver is a volume, the
driver behind the mount at the root, and the trees behind mounts. -/
structure View where
  held : Option (OpenFile DriverId)
  isVolume : Bool
  root : Option DriverId
  trees : List (Option Tree)
  deriving DecidableEq

def viewOf (space : NameSpace Backend RamDisk) : View where
  held := (space.descriptors.get 3).toOption
  isVolume := ((space.world.driver? 0).bind volume?).isSome
  root := mountedAt space "/"
  trees := trees space

/-- The file is gone from the path, and nothing is written to what is there
instead. -/
theorem refused_after_unmount_sample :
    ∃ space unmounted later : NameSpace Backend RamDisk,
      Reachable Extends space
      ∧ space.descriptors.get 3 = .ok ⟨0, 0, "/"⟩
      ∧ ((unmount "/").run space).after? = some unmounted
      ∧ Onward Extends 3 unmounted later
      ∧ trees space = [some (.directory [("f", .file [])])]
      ∧ trees later = [some (.directory [("f", .directory [])])]
      ∧ (write 3 [1]).run later = .refused .noDevice later := by
  have shape : (exchange.map fun (space, _, later) =>
        (viewOf space, viewOf later))
      = some
        (⟨some ⟨0, 0, "/"⟩, true, some 0,
          [some (.directory [("f", .file [])])]⟩,
        ⟨some ⟨0, 0, "/"⟩, true, some 1,
          [some (.directory [("f", .directory [])])]⟩) := by
    decide +kernel
  obtain ⟨⟨space, unmounted, later⟩, made, tells⟩ :=
    Option.map_eq_some_iff.mp shape
  obtain ⟨before, after⟩ := Prod.mk.inj tells
  obtain ⟨first, starts, made⟩ := Option.bind_eq_some_iff.mp made
  obtain ⟨_, opens, made⟩ := Option.bind_eq_some_iff.mp made
  obtain ⟨_, left, made⟩ := Option.bind_eq_some_iff.mp made
  obtain ⟨_, mounts, made⟩ := Option.bind_eq_some_iff.mp made
  cases made
  have grown : Extends World.empty
      (⟨[⟨96, 32, ∅⟩, ⟨96, 32, ∅⟩], [], []⟩ : World Backend RamDisk) :=
    ⟨Nat.zero_le _, List.nil_prefix⟩
  have reachable : Reachable Extends space :=
    (((Reachable.empty 16).outside _ grown).afterAll starts).command
      (.openFile "/f" "w" defaultPermissions) opens
  have held : space.descriptors.get 3 = .ok ⟨0, 0, "/"⟩ := by
    have held : (space.descriptors.get 3).toOption = some ⟨0, 0, "/"⟩ :=
      congrArg View.held before
    cases found : space.descriptors.get 3 with
    | ok file =>
      rw [found] at held
      exact congrArg Except.ok (Option.some.inj held)
    | error fault =>
      rw [found] at held
      cases held
  have isVolume : ∃ volume,
      space.world.driver? 0 = some (.volume volume) := by
    obtain ⟨volume, known⟩ :=
      Option.isSome_iff_exists.mp (congrArg View.isVolume before)
    obtain ⟨driver, known, is⟩ := Option.bind_eq_some_iff.mp known
    exact ⟨volume, volume?_eq_some_iff.mp is ▸ known⟩
  have onward : Onward Extends 3 unmounted later :=
    Onward.here.afterAll (by simp [closing?]) mounts
  have refuses := refused_after_unmount (fun _ _ grown => grown) reachable
    held isVolume (congrArg View.root before) left onward
  exact ⟨space, unmounted, later, reachable, held, left, onward,
    congrArg View.trees before, congrArg View.trees after,
    (refuses.1 [1]).2.1⟩

end MountSpace.Proofs.NameSpaces
