import MountSpace.Device.RamDisk
import MountSpace.Proofs.NameSpaces.Pairing
import MountSpace.Proofs.NameSpaces.Volumes
import MountSpace.Proofs.Volumes.OpenNumbers

/-!
# `MountSpace.Proofs.NameSpaces.OpenFiles`: open files of volumes

Each open file of a volume behind a mount has a descriptor, and only one:
no command loses a file that is open, or leaves a descriptor of a mounted
volume without its file (`open_iff_descriptor`). This is so however
commands end and whatever devices do, as long as no volume has opened more
files than there are numbers.
-/

set_option autoImplicit false

namespace MountSpace.Proofs.NameSpaces

open Effects
open MountSpace.NameSpace
open Volumes (Numbers ensures_close_numbers ensures_mount_numbers
  ensures_openFile_numbers keeps_numbers)

variable {σ α : Type} [BlockDevice σ]

/-! ### Volumes as drivers -/

/-- What is known of volumes is the numbers of their open files. Of other
drivers nothing is known. -/
def numbers : Books Backend where
  kept driver := (volume? driver).isSome
  tells driver ledger := ∃ volume, driver = .volume volume
    ∧ Numbers ledger.files ledger.next volume

/-- A driver stays of its type. -/
theorem keeps_kind {request : Request α} (site : Site Backend σ) :
    Meets
      (fun _ left => numbers.kept left.driver ↔ numbers.kept site.driver)
      (fun _ left => numbers.kept left.driver ↔ numbers.kept site.driver)
      ((Driver.serve request).run site) := by
  obtain ⟨driver, medium⟩ := site
  cases driver with
  | volume volume =>
    exact meets_hosting volume Backend.volume
      (meets_of_forall _ (fun _ _ => Iff.rfl) (fun _ _ => Iff.rfl))
  | scratch inner =>
    exact meets_hosting inner Backend.scratch
      (meets_of_forall _ (fun _ _ => Iff.rfl) (fun _ _ => Iff.rfl))

/-- Volumes give numbers out in order, and none to two files. -/
theorem bookKeeping_numbers : BookKeeping σ numbers where
  kind _ site := keeps_kind site
  mount := by
    rintro ⟨driver, medium⟩
    cases driver with
    | volume volume =>
      refine meets_hosting volume Backend.volume ?_
      refine (ensures_mount_numbers.apply trivial).imp ?_
        (fun _ _ known => known)
      exact fun _ left known _ => ⟨left.driver, rfl, known⟩
    | scratch inner =>
      refine meets_hosting inner Backend.scratch ?_
      refine meets_of_forall _ (fun _ _ known => ?_) (fun _ _ => trivial)
      cases known
  passing site passes := by
    refine Meets.all fun ledger => ?_
    rintro ⟨volume, isVolume, known⟩
    exact meets_of_volume isVolume ((keeps_numbers passes).apply known)
  openFile path flags permissions site := by
    refine Meets.all fun ledger => ?_
    rintro ⟨volume, isVolume, known⟩
    refine (meets_of_volume isVolume ((ensures_openFile_numbers path flags
      permissions).apply known)).imp ?_ (fun _ _ known => known)
    rintro file left ⟨volume, isVolume, isNext, known⟩
    exact ⟨isNext, volume, isVolume, known⟩
  close file site := by
    refine Meets.all fun ledger => ?_
    rintro ⟨volume, isVolume, known⟩
    exact meets_of_volume isVolume ((ensures_close_numbers file).apply known)

/-! ### Volumes behind mounts -/

/-- The files that a volume behind a mount has open are those of the
descriptors, and no two descriptors have the same one. This is so in every
name space of volumes that is in use, as long as nobody else asks the
volumes and each has opened fewer files than there are numbers. -/
theorem open_iff_descriptor
    {others : World Backend σ → World Backend σ → Prop}
    (calm : ∀ world later, others world later → Extends world later)
    {space : NameSpace Backend σ} {opens : DriverId → Nat}
    (counted : Counted others space opens)
    (volumes : ∀ installed ∈ space.world.drivers,
      ∃ volume, installed.driver = .volume volume)
    (few : ∀ driver, opens driver < 2 ^ 32) :
    (∀ mount ∈ space.mounts, ∃ mounted : Mounted,
      space.world.driver? mount.driver = some (.volume ⟨some mounted⟩)
        ∧ ∀ file, file ∈ Keyed.keys mounted.handles
          ↔ ∃ descriptor opened,
            space.descriptors.get descriptor = .ok opened
              ∧ opened.driver = mount.driver ∧ opened.file = file)
      ∧ ∀ descriptor other one two,
        space.descriptors.get descriptor = .ok one →
        space.descriptors.get other = .ok two →
        one.driver = two.driver → one.file = two.file →
        descriptor = other := by
  have paired := paired_of_counted bookKeeping_numbers calm counted
  -- With no other drivers than volumes, the files of all are known.
  have kept (driver : DriverId) (state : Backend)
      (found : space.world.driver? driver = some state) :
      numbers.kept state := by
    obtain ⟨installed, isThere, rfl⟩ := Option.map_eq_some_iff.mp found
    obtain ⟨volume, isVolume⟩ :=
      volumes installed (List.mem_of_getElem? isThere)
    rw [isVolume]
    exact rfl
  constructor
  · intro mount member
    obtain ⟨state, found⟩ := Option.isSome_iff_exists.mp
      (paired.installed _ (List.mem_map_of_mem member))
    obtain ⟨ledger, ⟨⟨_⟩, rfl, mounted, rfl, numbered⟩, agrees⟩ :=
      paired.balanced.matched (List.mem_map_of_mem member) found
        (kept _ _ found)
    refine ⟨mounted, found, fun file => ?_⟩
    rw [numbered.files, (agrees (Nat.le_of_lt (few _))).2, held_holderOf_iff]
  · intro descriptor other one two held heldOther sameDriver sameFile
    have place : holderOf none space.descriptors (some descriptor)
        = some one := holderOf_some_eq_some_iff.mpr held
    have placeOther : holderOf none space.descriptors (some other)
        = some two := holderOf_some_eq_some_iff.mpr heldOther
    obtain ⟨state, found⟩ :=
      Option.isSome_iff_exists.mp (paired.balanced.there place)
    exact Option.some.inj (paired.balanced.apart place placeOther sameDriver
      sameFile ⟨⟨state, found, kept _ _ found⟩, Nat.le_of_lt (few _)⟩)

/-- The numbers of the files that a volume behind a mount has open. -/
def numbersOf (space : NameSpace Backend RamDisk) (mount : Mount DriverId) :
    Option (List FileId) := do
  let volume ← (space.world.driver? mount.driver).bind volume?
  let mounted ← volume.mounted
  return Keyed.keys mounted.handles

/-- A name space in use, with a volume at the root. -/
def rooted : Option (NameSpace Backend RamDisk) :=
  afterAll rootVolume
    { (NameSpace.empty 16 : NameSpace Backend RamDisk) with
      world := ⟨[⟨96, 32, ∅⟩], [], []⟩ }

/-- The file that is open there has a descriptor. -/
theorem open_iff_descriptor_sample :
    ∃ (space : NameSpace Backend RamDisk) (opens : DriverId → Nat),
      Counted Extends space opens
      ∧ (∀ installed ∈ space.world.drivers,
        ∃ volume, installed.driver = .volume volume)
      ∧ (∀ driver, opens driver < 2 ^ 32)
      ∧ space.mounts.map (numbersOf space) = [some [0]]
      ∧ ∃ descriptor opened, space.descriptors.get descriptor = .ok opened
        ∧ opened.file = 0 := by
  have shape : rooted.map (fun space =>
      ((openFile "/f" "w" defaultPermissions).run space).after?.map
        fun after => (after.mounts.map (numbersOf after),
          after.world.drivers.map fun installed =>
            (volume? installed.driver).isSome))
      = some (some ([some [0]], [true])) := by
    decide +kernel
  obtain ⟨start, isRooted, tells⟩ := Option.map_eq_some_iff.mp shape
  obtain ⟨space, left, tells⟩ := Option.map_eq_some_iff.mp tells
  obtain ⟨numbers, kinds⟩ := Prod.mk.inj tells
  have grown : Extends World.empty
      (⟨[⟨96, 32, ∅⟩], [], []⟩ : World Backend RamDisk) :=
    ⟨Nat.zero_le _, List.nil_prefix⟩
  obtain ⟨opens, counted, bound⟩ :=
    ((Counted.empty 16).outside _ grown).afterAll isRooted
  have counted := counted.command
    (.openFile "/f" "w" defaultPermissions) left
  have volumes : ∀ installed ∈ space.world.drivers,
      ∃ volume, installed.driver = .volume volume := by
    intro installed member
    have isVolume : (volume? installed.driver).isSome
        ∈ space.world.drivers.map fun installed =>
          (volume? installed.driver).isSome := List.mem_map_of_mem member
    rw [kinds, List.mem_singleton] at isVolume
    obtain ⟨volume, is⟩ := Option.isSome_iff_exists.mp isVolume
    exact ⟨volume, volume?_eq_some_iff.mp is⟩
  have few (driver : DriverId) : counting opens
      (openedBy (.openFile "/f" "w" defaultPermissions) start) driver
      < 2 ^ 32 := by
    have one := counting_le opens
      (openedBy (.openFile "/f" "w" defaultPermissions) start) driver
    have three := bound driver
    rw [rootVolume, List.length_cons, List.length_cons, List.length_nil]
      at three
    omega
  obtain ⟨files, _⟩ :=
    open_iff_descriptor (fun _ _ grown => grown) counted volumes few
  refine ⟨space, _, counted, volumes, few, numbers, ?_⟩
  obtain ⟨mount, single, is⟩ := List.map_eq_singleton_iff.mp numbers
  obtain ⟨mounted, found, same⟩ :=
    files mount (single ▸ List.mem_singleton_self mount)
  rw [numbersOf, found] at is
  have keys : Keyed.keys mounted.handles = [0] := Option.some.inj is
  have isOpen : (0 : FileId) ∈ Keyed.keys mounted.handles := by
    rw [keys]
    exact List.mem_singleton_self 0
  obtain ⟨descriptor, opened, held, _, isFile⟩ := (same 0).mp isOpen
  exact ⟨descriptor, opened, held, isFile⟩

end MountSpace.Proofs.NameSpaces
