import MountSpace.Device.RamDisk
import MountSpace.Proofs.NameSpaces.Opening
import MountSpace.Proofs.NameSpaces.Volumes
import MountSpace.Proofs.Volumes.PlannedFiles

/-!
# `MountSpace.Proofs.NameSpaces.RefusedOpens`: opens that come to nothing

A file is opened by its volume before it gets a descriptor. If there is
none left the volume closes it again, but what opening has done to the tree
stays: a file that was missing has been made, one that was there has been
emptied. In all other cases nothing is left of an open that is refused.

* `ensures_begin`: a volume opens the file, or all drivers are as they were.
* `ensures_settle`: the file gets a descriptor, or is closed again.
* `after_refused_open`: what is left of an open that is refused.
-/

set_option autoImplicit false

namespace MountSpace.Proofs.NameSpaces

open Effects
open MountSpace.NameSpace
open Routing (mem_of_find)
open Volumes (AboutFiles Prepares current current_eq_ok_iff openFile_eq_ok
  planned run_close_of_open)

variable {σ : Type} [BlockDevice σ] {space after : NameSpace Backend σ}
  {path mode : String}

/-! ### Opening -/

/-- How a volume opens a file. -/
structure Opens (volume : Volume) (path mode : String) (first : Mounted)
    (plan : Plan FileId) : Prop where
  mounted : volume = ⟨some first⟩
  planned : ∃ flags names, OpenFlags.ofMode mode = .ok flags
    ∧ Volume.names path = .ok names
    ∧ first.openFile names flags = .ok plan

theorem opens_of_planned {volume : Volume} {flags : OpenFlags}
    {permissions : UInt32} {plan : Plan FileId}
    (known : OpenFlags.ofMode mode = .ok flags)
    (made : planned volume (.openFile path flags permissions) = .ok plan) :
    ∃ first, Opens volume path mode first plan := by
  rw [planned] at made
  split at made
  · cases made
  · obtain ⟨names, named, made⟩ := bind_eq_ok_iff.mp made
    obtain ⟨first, mounted, made⟩ := bind_eq_ok_iff.mp made
    have isMounted := current_eq_ok_iff.mp mounted
    exact ⟨first, congrArg Volume.mk isMounted,
      flags, names, known, named, made⟩

/-- The volume that a path leads to has opened the file there. -/
structure Opened (space : NameSpace Backend σ) (path mode : String)
    (opened : OpenFile DriverId) (world : World Backend σ) : Prop where
  others (other : DriverId) : other ≠ opened.driver →
    world.driver? other = space.world.driver? other
  opens : ∃ mount rest volume first plan,
    space.mounts.find (Path.resolve space.directory path) = .ok (mount, rest)
      ∧ opened.driver = mount.driver ∧ opened.file = plan.value
      ∧ space.world.driver? mount.driver = some (.volume volume)
      ∧ Opens volume rest mode first plan
      ∧ Serves (· = .volume ⟨some plan.next⟩) world mount.driver

/-- A volume has a file open that no descriptor leads to. -/
def Begun (space : NameSpace Backend σ) (path mode : String)
    (opened : OpenFile DriverId) (after : NameSpace Backend σ) : Prop :=
  ∃ world, after = { space with world } ∧ Opened space path mode opened world

/-- All drivers are as they were, and so is all that leads to them. -/
def Spared (space after : NameSpace Backend σ) : Prop :=
  ∃ world, after = { space with world }
    ∧ ∀ driver, world.driver? driver = space.world.driver? driver

omit [BlockDevice σ] in
theorem Noted.spared (noted : Noted space after) : Spared space after := by
  obtain ⟨events, rfl⟩ := noted
  exact ⟨_, rfl, fun _ => rfl⟩

/-- To look a path up changes nothing, and a volume opens the file or is
what it was. -/
theorem ensures_begin (volumes : ∀ mount ∈ space.mounts, ∃ volume,
      space.world.driver? mount.driver = some (.volume volume))
    (path mode : String) (permissions : UInt32) :
    Ensures (Noted space) (begin path mode permissions)
      (Begun space path mode) (fun _ => Spared space) := by
  have flagged := (ensures_answer (Noted space)
    (OpenFlags.ofMode mode)).refusing fun _ _ => Noted.spared
  refine ensures_bind flagged fun flags => ?_
  intro start ⟨known, noted⟩
  have found := (ensures_lookup_noted space path).refusing
    fun _ _ => Noted.spared
  refine ensures_bind found ?_ start noted
  rintro ⟨mount, rest⟩ start ⟨routes, noted⟩
  obtain ⟨volume, driver⟩ := volumes mount (mem_of_find routes)
  have files : AboutFiles (.openFile rest flags permissions) := trivial
  have opens : Ensures (Noted space)
      (call mount.driver (.openFile rest flags permissions))
      (fun file => Begun space path mode ⟨file, mount.driver, mount.path⟩)
      (fun _ => Spared space) := by
    refine ensures_call (fun _ noted _ => noted.spared) ?_
    rintro _ site ⟨events, rfl⟩ there
    have isVolume : site.driver = .volume volume :=
      Option.some.inj ((driver?_of_site? there).symm.trans driver)
    refine ((ensures_volume files volume).apply isVolume).imp ?_ ?_
    -- A volume that has opened the file is as its plan says.
    · rintro file left ⟨plan, made, rfl, next⟩
      obtain ⟨first, opens⟩ := opens_of_planned known made
      refine ⟨_, rfl, fun other different => ?_, mount, rest, volume, first,
        plan, routes, rfl, rfl, driver, opens, serves_putSite there next⟩
      exact driver?_putSite_of_ne different left _
    · intro fault left same
      refine ⟨_, rfl, fun other => ?_⟩
      by_cases asked : other = mount.driver
      · subst asked
        rw [driver?_putSite_self there, same]
        exact driver.symm
      · exact driver?_putSite_of_ne asked left _
  refine ensures_bind opens (fun file => ?_) start noted
  exact fun _ begun => begun

/-! ### Closing again -/

/-- What is left in the world of a file that got no descriptor. The volume
that the path leads to has the same files open, if it had not come back to
a number that was still in use, and its tree is as opening the file has
made it. All other drivers are as they were. -/
def Closed (space : NameSpace Backend σ) (path mode : String)
    (world : World Backend σ) : Prop :=
  ∃ mount rest first last flags names,
    space.mounts.find (Path.resolve space.directory path) = .ok (mount, rest)
      ∧ space.world.driver? mount.driver = some (.volume ⟨some first⟩)
      ∧ world.driver? mount.driver = some (.volume ⟨some last⟩)
      ∧ (∀ other, other ≠ mount.driver →
        world.driver? other = space.world.driver? other)
      ∧ (first.nextId ∉ Keyed.keys first.handles →
        last.handles = first.handles)
      ∧ OpenFlags.ofMode mode = .ok flags ∧ Volume.names rest = .ok names
      ∧ Prepares flags names first.root last.root

/-- A file that is open can be closed, whatever the device does. -/
theorem run_close {mounted : Mounted} {file : FileId} {handle : Handle}
    (found : mounted.handle file = .ok handle) (medium : Medium σ) :
    (Driver.serve (.close file)).run
        (⟨.volume ⟨some mounted⟩, medium⟩ : Site Backend σ)
      = .done () ⟨.volume ⟨some { mounted with
          handles := Keyed.erase mounted.handles file }⟩, medium⟩ := by
  rw [run_serve_volume, run_close_of_open found]

/-- What opening has entered into the open files is taken out again, and
what it has done to the tree is not. -/
theorem closed_of_opened {opened : OpenFile DriverId}
    {world : World Backend σ} (is : Opened space path mode opened world) :
    ∃ site left, world.site? opened.driver = some site
      ∧ (Driver.serve (.close opened.file)).run site = .done () left
      ∧ Closed space path mode (World.putSite opened.driver left world) := by
  obtain ⟨file, driver, mountPath⟩ := opened
  obtain ⟨mount, rest, volume, first, plan, routes, asked, number, known,
    ⟨rfl, flags, names, allowed, named, made⟩, serves⟩ := is.opens
  cases asked
  cases number
  obtain ⟨value, _, handles, prepares⟩ := openFile_eq_ok made
  have held : plan.next.handle plan.value = .ok ⟨names, flags, 0⟩ := by
    rw [Mounted.handle, value, handles, Keyed.get?_insert_self]
  obtain ⟨⟨_, medium⟩, found, rfl⟩ := serves.site?
  refine ⟨_, _, found, run_close held medium, mount, rest, first, _, flags,
    names, routes, known, driver?_putSite_self found _, ?_, ?_, allowed,
    named, prepares⟩
  · intro other different
    rw [driver?_putSite_of_ne different]
    exact is.others other different
  -- Under a number that was in use the older file is lost with the new one.
  · intro fresh
    show Keyed.erase plan.next.handles plan.value = first.handles
    rw [handles, value, Keyed.erase_insert fresh]

/-- There was no descriptor left, and the file has been closed again. -/
structure Exhausted (space : NameSpace Backend σ) (path mode : String)
    (after : NameSpace Backend σ) : Prop where
  full : Full space.descriptors
  descriptors (descriptor : Nat) :
    after.descriptors.get descriptor = space.descriptors.get descriptor
  mounts : after.mounts = space.mounts
  closed : Closed space path mode after.world

/-- A file that gets no descriptor is closed again. -/
theorem ensures_settle (opened : OpenFile DriverId) :
    Ensures (Begun space path mode opened) (settle opened)
      (fun _ _ => True)
      (fun fault after => fault = .tooManyOpenFiles
        ∧ Exhausted space path mode after) := by
  have allotted : Ensures (Begun space path mode opened)
      (inDescriptors (DescriptorTable.alloc opened)) (fun _ _ => True)
      (fun fault after => fault = .tooManyOpenFiles
        ∧ Full space.descriptors
        ∧ ∃ world descriptors, after = { space with world, descriptors }
          ∧ (∀ descriptor, descriptors.get descriptor
            = space.descriptors.get descriptor)
          ∧ Opened space path mode opened world) := by
    refine ensures_within ?_
    rintro _ ⟨world, rfl, is⟩
    refine (meets_alloc space.descriptors opened).imp
      (fun _ _ _ => trivial) ?_
    rintro fault descriptors ⟨reason, full, same⟩
    exact ⟨reason, full, world, descriptors, rfl, same, is⟩
  refine ensures_onRefusal allotted fun fault => ?_
  rintro _ ⟨reason, full, world, descriptors, rfl, same, is⟩
  obtain ⟨site, left, found, closes, closed⟩ := closed_of_opened is
  rw [withdrawFile, Action.run_bind, Action.run_attempt, run_call]
  simp only [found, closes]
  exact ⟨reason, full, same, rfl, closed⟩

/-! ### Both together -/

/-- An open that is refused leaves the descriptors and the mounts as they
were, and all drivers too, unless there was no descriptor left for the file
that its volume had opened. -/
theorem after_refused_open {permissions : UInt32} {fault : Fault}
    (volumes : ∀ mount ∈ space.mounts, ∃ volume,
      space.world.driver? mount.driver = some (.volume volume))
    (refused : (openFile path mode permissions).run space
      = .refused fault after) :
    (∀ descriptor, after.descriptors.get descriptor
        = space.descriptors.get descriptor)
      ∧ after.mounts = space.mounts
      ∧ ((∀ driver, after.world.driver? driver = space.world.driver? driver)
        ∨ fault = .tooManyOpenFiles ∧ Full space.descriptors
          ∧ Closed space path mode after.world) := by
  have opens : Ensures (Noted space) (openFile path mode permissions)
      (fun _ _ => True)
      (fun fault after => Spared space after ∨ fault = .tooManyOpenFiles
        ∧ Exhausted space path mode after) := by
    rw [openFile_eq]
    have begins := (ensures_begin volumes path mode permissions).refusing
      fun (fault : Fault) after spared =>
        (Or.inl spared : Spared space after ∨ fault = .tooManyOpenFiles
          ∧ Exhausted space path mode after)
    refine ensures_bind begins fun opened => ?_
    exact (ensures_settle opened).refusing fun _ _ => Or.inr
  have meets := opens.apply ⟨space.world.events, rfl⟩
  rw [refused] at meets
  rcases meets with ⟨world, rfl, same⟩ | ⟨reason, exhausted⟩
  · exact ⟨fun _ => rfl, rfl, .inl same⟩
  · exact ⟨exhausted.descriptors, exhausted.mounts,
      .inr ⟨reason, exhausted.full, exhausted.closed⟩⟩

/-! ### A table without descriptors -/

/-- A name space in use in which no file can get a descriptor. -/
def crowded : Option (NameSpace Backend RamDisk) :=
  afterAll rootVolume
    { (NameSpace.empty 3 : NameSpace Backend RamDisk) with
      world := ⟨[⟨96, 32, ∅⟩], [], []⟩ }

theorem crowded_refuses :
    ∃ space after : NameSpace Backend RamDisk, Reachable Extends space
      ∧ (∀ mount ∈ space.mounts, ∃ volume,
        space.world.driver? mount.driver = some (.volume volume))
      ∧ (openFile "/f" "w" defaultPermissions).run space
        = .refused .tooManyOpenFiles after
      ∧ trees space = [some (.directory [])]
      ∧ trees after = [some (.directory [("f", .file [])])] := by
  have shape : crowded.map (fun space =>
      ((openFile "/f" "w" defaultPermissions).run space |>.reply?,
        ((openFile "/f" "w" defaultPermissions).run space).after?.map trees,
        trees space))
      = some (some (Except.error .tooManyOpenFiles),
        some [some (Tree.directory [("f", .file [])])],
        [some (Tree.directory [])]) := by
    decide +kernel
  obtain ⟨space, left, tells⟩ := Option.map_eq_some_iff.mp shape
  obtain ⟨reply, tells⟩ := Prod.mk.inj tells
  obtain ⟨treesAfter, treesBefore⟩ := Prod.mk.inj tells
  have grown : Extends World.empty
      (⟨[⟨96, 32, ∅⟩], [], []⟩ : World Backend RamDisk) :=
    ⟨Nat.zero_le _, List.nil_prefix⟩
  have reachable : Reachable Extends space :=
    ((Reachable.empty 3).outside _ grown).afterAll left
  have volumes : ∀ mount ∈ space.mounts, ∃ volume,
      space.world.driver? mount.driver = some (.volume volume) := by
    intro mount member
    have listed : treeOf space mount ∈ trees space :=
      List.mem_map_of_mem member
    rw [treesBefore] at listed
    exact exists_volume_of_treeOf (List.mem_singleton.mp listed)
  cases run : (openFile "/f" "w" defaultPermissions).run space with
  | done descriptor after =>
    rw [run] at reply
    cases reply
  | stopped trap =>
    rw [run] at reply
    cases reply
  | refused fault after =>
    rw [run] at reply treesAfter
    cases reply
    exact ⟨space, after, reachable, volumes, run, treesBefore,
      Option.some.inj treesAfter⟩

/-- So not all trees are what they were when an open is refused. -/
theorem not_trees_of_refused_open :
    ¬ ∀ (space after : NameSpace Backend RamDisk) (path mode : String)
      (permissions : UInt32) (fault : Fault), Reachable Extends space →
      (∀ mount ∈ space.mounts, ∃ volume,
        space.world.driver? mount.driver = some (.volume volume)) →
      (openFile path mode permissions).run space = .refused fault after →
      trees after = trees space := by
  intro same
  obtain ⟨space, after, reachable, volumes, refused, before, later⟩ :=
    crowded_refuses
  have equal := same _ _ _ _ _ _ reachable volumes refused
  rw [before, later] at equal
  exact absurd equal (by decide)

/-- The file has been made, and is not open. -/
theorem after_refused_open_sample :
    ∃ space after : NameSpace Backend RamDisk,
      (∀ mount ∈ space.mounts, ∃ volume,
        space.world.driver? mount.driver = some (.volume volume))
      ∧ (openFile "/f" "w" defaultPermissions).run space
        = .refused .tooManyOpenFiles after
      ∧ (∀ descriptor, after.descriptors.get descriptor
        = space.descriptors.get descriptor)
      ∧ Full space.descriptors ∧ Closed space "/f" "w" after.world := by
  obtain ⟨space, after, _, volumes, refused, before, later⟩ :=
    crowded_refuses
  obtain ⟨descriptors, mounts, same | ⟨_, full, closed⟩⟩ :=
    after_refused_open volumes refused
  · have equal : trees after = trees space := by
      have sameTree : treeOf after = treeOf space := by
        funext mount
        rw [treeOf, treeOf, same]
      rw [trees, trees, mounts, sameTree]
    rw [before, later] at equal
    exact absurd equal (by decide)
  · exact ⟨space, after, volumes, refused, descriptors, full, closed⟩

end MountSpace.Proofs.NameSpaces
