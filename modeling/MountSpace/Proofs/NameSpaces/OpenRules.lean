import MountSpace.Device.RamDisk
import MountSpace.Proofs.NameSpaces.DescriptorMap
import MountSpace.Proofs.NameSpaces.Listing
import MountSpace.Proofs.NameSpaces.WholeFiles
import MountSpace.Proofs.Volumes.OpenRules

/-!
# `MountSpace.Proofs.NameSpaces.OpenRules`: files opened in a name space

A file is opened in a name space by the volume that its path leads to, for
what its mode says. If there is a descriptor left for it, a name space
answers what the volume does: the verdict on what is left of the path.

* `fits_of_reachable`: the tree of every volume behind a mount fits its
  device.
* `decided_open`: what the volume refuses is refused, and what it opens gets
  a descriptor.
* `open_by_verdict`: for volumes by themselves and behind mounts.
-/

set_option autoImplicit false

namespace MountSpace.Proofs.NameSpaces

open Effects
open MountSpace.NameSpace
open Routing (mem_of_find)
open Storage (Fits geometryOf reliable_disk)
open Trees (Present)
open Volumes (askedAll Begins Contained Decided FaultFree HasRoom Operated Rooted
  contained_some decided_of_done decided_of_refused decided_openFile
  ensures_mounted keeps_contained keeps_rooted verdict)

section

variable {σ : Type} [BlockDevice σ]

/-! ### Volumes behind mounts -/

/-- A volume is mounted, and its tree fits its device. Of other drivers
nothing is asked. -/
def Fitting : Backend → Prop
  | .volume volume => Rooted volume ∧ Contained volume
  | .scratch _ => True

theorem lasting_fitting : Lasting σ Fitting where
  mount := by
    rintro ⟨driver, medium⟩ _
    cases driver with
    | volume volume =>
      refine meets_hosting volume Backend.volume ?_
      refine (ensures_mounted.apply trivial).imp ?_ (fun _ _ _ => trivial)
      rintro _ ⟨_, left⟩ ⟨root, geometry, fits, rfl⟩
      exact ⟨⟨_, rfl, fits.isRoot⟩, contained_some fits⟩
    | scratch inner =>
      refine meets_hosting inner Backend.scratch ?_
      exact meets_of_forall _ (fun _ _ => trivial) (fun _ _ => trivial)
  files files := by
    rintro ⟨driver, medium⟩ fitting
    cases driver with
    | volume volume =>
      refine meets_hosting volume Backend.volume ?_
      exact ((keeps_rooted files).apply fitting.1).and
        ((keeps_contained _).apply fitting.2)
    | scratch inner =>
      refine meets_hosting inner Backend.scratch ?_
      exact meets_of_forall _ (fun _ _ => trivial) (fun _ _ => trivial)

variable {space : NameSpace Backend σ} {mount : Mount DriverId}
  {path rest mode : String} {before : Mounted} {medium : Medium σ}

/-- The volume that a path leads to has a tree that fits its device. -/
theorem fits_of_reachable (reachable : Reachable Extends space)
    (leads : space.mounts.find (Path.resolve space.directory path)
      = .ok (mount, rest))
    (there : space.world.site? mount.driver
      = some ⟨.volume ⟨some before⟩, medium⟩) :
    Fits before.geometry before.root := by
  have serving := serving_of_reachable lasting_fitting
    (fun _ _ grown => grown) reachable
  have fitting := (serving.serves mount (mem_of_find leads)).of_site? there
  exact fitting.2 before rfl

/-! ### Descriptors -/

omit [BlockDevice σ] in
/-- A file gets a descriptor where one is left. -/
theorem exists_alloc {table : DescriptorTable DriverId}
    (spare : ¬ Full table) (opened : OpenFile DriverId) :
    ∃ descriptor after,
      (DescriptorTable.alloc opened).run table = .done descriptor after
      ∧ after.get descriptor = .ok opened := by
  have meets := meets_alloc table opened
  cases run : (DescriptorTable.alloc opened).run table with
  | done descriptor after =>
    rw [run] at meets
    refine ⟨descriptor, after, rfl, ?_⟩
    rw [meets.get, if_pos rfl]
  | refused fault after =>
    rw [run] at meets
    exact absurd meets.2.1 spare
  | stopped trap =>
    rw [run_alloc] at run
    split at run
    · nomatch run
    · split at run <;> nomatch run

/-! ### Opening -/

/-- All modes ask for something. -/
theorem isEmpty_of_ofMode {mode : String} {flags : OpenFlags}
    (known : OpenFlags.ofMode mode = .ok flags) : flags.isEmpty = false := by
  unfold OpenFlags.ofMode at known
  split at known <;> cases known <;> rfl

variable {flags : OpenFlags} {names : List String} {permissions : UInt32}

/-- The name space when a volume and its device have come to something. -/
def onward (driver : DriverId) (left : Site Volume σ)
    (space : NameSpace Backend σ) : NameSpace Backend σ :=
  { space with
    world := World.putSite driver ⟨.volume left.driver, left.medium⟩
      space.world }

/-- A volume behind a mount is asked as it would be by itself. -/
theorem run_call_volume {volume : Volume} {driver : DriverId} {α : Type}
    (there : space.world.site? driver = some ⟨.volume volume, medium⟩)
    (request : Request α) :
    (call driver request).run space
      = match (Volume.serve request).run ⟨volume, medium⟩ with
        | .done value left => .done value (onward driver left space)
        | .refused fault left => .refused fault (onward driver left space)
        | .stopped trap => .stopped trap := by
  rw [run_call, there]
  cases ends : (Volume.serve request).run ⟨volume, medium⟩ <;>
    simp only [run_serve_volume, ends, onward]

/-- What a volume refuses is refused, and what it opens gets a
descriptor. -/
theorem decided_open (fits : Fits before.geometry before.root)
    (spare : ¬ Full space.descriptors)
    (known : OpenFlags.ofMode mode = .ok flags)
    (leads : space.mounts.find (Path.resolve space.directory path)
      = .ok (mount, rest))
    (there : space.world.site? mount.driver
      = some ⟨.volume ⟨some before⟩, medium⟩)
    (faultFree : FaultFree before.geometry medium.device)
    (named : Volume.names rest = .ok names)
    (room : HasRoom names flags before) :
    Decided (verdict before.root names flags)
      ((openFile path mode permissions).run space)
      (fun descriptor after => ∃ file next,
        after.descriptors.get descriptor
          = .ok ⟨file, mount.driver, mount.path⟩
        ∧ after.world.driver? mount.driver = some (.volume ⟨some next⟩)
        ∧ Begins names flags before next file) := by
  have filled : flags.isEmpty = false := isEmpty_of_ofMode known
  -- The volume is asked after the look-up has been noted.
  have isThere : (routed path rest mount space).world.site? mount.driver
      = some ⟨.volume ⟨some before⟩, { medium with
        events := .routed (Path.resolve space.directory path) mount.path rest
          :: medium.events }⟩ :=
    site?_noted (.routed (Path.resolve space.directory path) mount.path rest)
      there
  have decided := decided_openFile
    ⟨⟨some before⟩, { medium with
      events := .routed (Path.resolve space.directory path) mount.path rest
        :: medium.events }⟩ fits rfl faultFree named filled room permissions
  rw [openFile_eq, Action.run_bind, run_begin_of_leads known leads,
    Action.run_bind, run_call_volume isThere]
  cases answer : verdict before.root names flags with
  | error fault =>
    obtain ⟨left, run⟩ := (decided.refused fault).mpr answer
    rw [run]
    exact decided_of_refused
  | ok _ =>
    obtain ⟨file, left, run, next, driver, begins⟩ :=
      decided.done.mpr answer
    rw [run]
    -- Neither the look-up nor the volume has taken a descriptor.
    obtain ⟨descriptor, table, alloc, given⟩ :=
      exists_alloc spare ⟨file, mount.driver, mount.path⟩
    have settles : (settle ⟨file, mount.driver, mount.path⟩).run
        (onward mount.driver left (routed path rest mount space))
        = .done descriptor { onward mount.driver left
            (routed path rest mount space) with descriptors := table } :=
      run_settle_of_alloc alloc
    show Decided _ ((settle ⟨file, mount.driver, mount.path⟩).run
      (onward mount.driver left (routed path rest mount space))) _
    rw [settles]
    refine decided_of_done ⟨file, next, given, ?_, begins⟩
    rw [← driver]
    exact driver?_putSite_self isThere _

end

/-- Whatever has been asked of a volume before, on a device that does not
fail a request to open a file, for anything at all, is refused with the
reason in the verdict, or opens the file as the flags say, provided that a
tree that has to be stored for that has room. The same holds in a name space
in use that has a descriptor left, of every mode and of what is left of a
path that leads to a volume. -/
theorem open_by_verdict {σ : Type} [BlockDevice σ] :
    (∀ (site : Site Volume σ) (before : Mounted) (text : String)
      (path : List String) (flags : OpenFlags) (permissions : UInt32),
      Operated site → site.driver.mounted = some before →
      FaultFree before.geometry site.medium.device →
      Volume.names text = .ok path → flags.isEmpty = false →
      HasRoom path flags before →
      Decided (verdict before.root path flags)
        ((Volume.serve (.openFile text flags permissions)).run site)
        (fun file after => ∃ next, after.driver = ⟨some next⟩
          ∧ Begins path flags before next file))
    ∧ (∀ (space : NameSpace Backend σ) (path mode rest : String)
      (permissions : UInt32) (flags : OpenFlags) (mount : Mount DriverId)
      (names : List String) (before : Mounted) (medium : Medium σ),
      Reachable Extends space → ¬ Full space.descriptors →
      OpenFlags.ofMode mode = .ok flags →
      space.mounts.find (Path.resolve space.directory path)
        = .ok (mount, rest) →
      space.world.site? mount.driver
        = some ⟨.volume ⟨some before⟩, medium⟩ →
      FaultFree before.geometry medium.device →
      Volume.names rest = .ok names → HasRoom names flags before →
      Decided (verdict before.root names flags)
        ((openFile path mode permissions).run space)
        (fun descriptor after => ∃ file next,
          after.descriptors.get descriptor
            = .ok ⟨file, mount.driver, mount.path⟩
          ∧ after.world.driver? mount.driver = some (.volume ⟨some next⟩)
          ∧ Begins names flags before next file)) := by
  constructor
  · intro site before text path flags permissions operated known faultFree
      named filled room
    exact decided_openFile site (operated.contained before known) known
      faultFree named filled room permissions
  · intro space path mode rest permissions flags mount names before medium
      reachable spare known leads there faultFree named room
    exact decided_open (fits_of_reachable reachable leads there) spare known
      leads there faultFree named room

/-- A volume with nothing in it has room for a file. -/
theorem hasRoom_first {before : Mounted} {flags : OpenFlags}
    (empty : before.root = Tree.empty) (large : 64 ≤ before.geometry.capacity) :
    HasRoom ["f"] flags before := by
  intro root prepares _
  have missing : Tree.empty.lookup ["f"] = .error .notFound := rfl
  have put : Tree.empty.put ["f"] (.file [])
      = .ok (.directory [("f", .file [])]) := by
    decide +kernel
  cases prepares with
  | kept found =>
    rw [empty, missing] at found
    nomatch found
  | emptied found =>
    rw [empty, missing] at found
    nomatch found
  | made _ _ made =>
    rw [empty, put] at made
    cases made
    have length : (Tree.directory [("f", .file [])]).encode.length ≤ 64 := by
      decide +kernel
    have limit : 64 < fieldLimit := by decide
    omega

/-- A name space with a volume at the root and one descriptor. -/
def spacious : Option (NameSpace Backend RamDisk) :=
  afterAll rootVolume
    { (NameSpace.empty 4 : NameSpace Backend RamDisk) with
      world := ⟨[⟨256, 32, ∅⟩], [], []⟩ }

/-- A missing file is made by a volume that is asked to make it, and is not
found in a name space by a mode that does not say so. -/
theorem open_by_verdict_sample :
    (∃ (site after : Site Volume RamDisk) (before next : Mounted)
      (file : FileId),
      Operated site ∧ site.driver.mounted = some before
      ∧ (Volume.serve (.openFile "f" (.write ||| .create) 0)).run site
        = .done file after
      ∧ after.driver = ⟨some next⟩
      ∧ next.root.lookup ["f"] = .ok (.file []))
    ∧ ∃ space after : NameSpace Backend RamDisk,
      Reachable Extends space
      ∧ (openFile "/f" "w+" defaultPermissions).run space
        = .refused .notFound after := by
  constructor
  · have shape : (askedAll [⟨_, .format⟩, ⟨_, .mount⟩]
        (⟨.fresh, ⟨⟨256, 32, ∅⟩, []⟩⟩ : Site Volume RamDisk)).any fun site =>
        site.driver.mounted.any fun mounted =>
          mounted.root = Tree.empty
          ∧ geometryOf site.medium.device = mounted.geometry
          ∧ 64 ≤ mounted.geometry.capacity := by
      decide +kernel
    obtain ⟨site, left, shape⟩ := (Option.any_eq_true _ _).mp shape
    obtain ⟨before, known, shape⟩ := (Option.any_eq_true _ _).mp shape
    obtain ⟨empty, same, large⟩ := of_decide_eq_true shape
    have operated : Operated site := (Operated.fresh _).askedAll left
    have faultFree : FaultFree before.geometry site.medium.device :=
      ⟨_, reliable_disk (operated.contained before known).readable, same⟩
    have decided := (open_by_verdict (σ := RamDisk)).1 site before "f" ["f"]
      (.write ||| .create) 0 operated known faultFree (by decide) (by decide)
      (hasRoom_first empty large)
    have allowed : verdict before.root ["f"] (.write ||| .create)
        = .ok () := by
      rw [empty]
      decide
    obtain ⟨file, after, run, next, driver, begins⟩ :=
      decided.done.mpr allowed
    have missing : ¬ Present before.root ["f"] := by
      rw [empty]
      decide
    exact ⟨site, after, before, next, file, operated, known, run, driver,
      (begins.made missing).since⟩
  · have shape : spacious.any fun space =>
        space.mounts = [⟨"/", "blockfs", 0⟩] ∧ space.directory = "/"
        ∧ space.descriptors = DescriptorTable.empty 4
        ∧ (space.world.site? 0).any fun site =>
          (volume? site.driver).any fun volume =>
          volume.mounted.any fun mounted =>
            mounted.root = Tree.empty
            ∧ geometryOf site.medium.device = mounted.geometry
            ∧ 64 ≤ mounted.geometry.capacity := by
      decide +kernel
    obtain ⟨space, left, shape⟩ := (Option.any_eq_true _ _).mp shape
    obtain ⟨mounts, directory, descriptors, shape⟩ := of_decide_eq_true shape
    obtain ⟨⟨driver, medium⟩, there, shape⟩ :=
      (Option.any_eq_true _ _).mp shape
    obtain ⟨⟨mounted⟩, isVolume, shape⟩ := (Option.any_eq_true _ _).mp shape
    obtain ⟨before, known, shape⟩ := (Option.any_eq_true _ _).mp shape
    obtain ⟨empty, same, large⟩ := of_decide_eq_true shape
    cases volume?_eq_some_iff.mp isVolume
    cases known
    have reachable : Reachable Extends space := by
      refine Reachable.afterAll (Reachable.outside _ (.empty 4) ?_) left
      exact ⟨Nat.zero_le _, List.nil_prefix⟩
    have spare : ¬ Full space.descriptors := by
      intro full
      rw [descriptors] at full
      obtain ⟨file, held⟩ := full 3 (by decide) (by decide)
      nomatch held
    have leads : space.mounts.find (Path.resolve space.directory "/f")
        = .ok (⟨"/", "blockfs", 0⟩, "/f") := by
      rw [mounts, directory]
      decide
    have faultFree : FaultFree before.geometry medium.device :=
      ⟨_, reliable_disk (fits_of_reachable reachable leads there).readable,
        same⟩
    have decided := (open_by_verdict (σ := RamDisk)).2 space "/f" "w+" "/f"
      defaultPermissions _ _ ["f"] before medium reachable spare rfl leads
      there faultFree (by decide) (hasRoom_first empty large)
    have missing : verdict before.root ["f"] (.write ||| .read ||| .truncate)
        = .error .notFound := by
      rw [empty]
      decide
    obtain ⟨after, run⟩ := (decided.refused .notFound).mpr missing
    exact ⟨space, after, reachable, run⟩

end MountSpace.Proofs.NameSpaces
