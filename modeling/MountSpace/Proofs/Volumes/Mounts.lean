import MountSpace.Proofs.Storage.Content
import MountSpace.Proofs.Storage.Interruption
import MountSpace.Proofs.Storage.Undisturbed
import MountSpace.Proofs.Volumes.Persistence

/-!
# `MountSpace.Proofs.Volumes.Mounts`: mounting any disk

The bytes on a disk may come from anywhere. Whatever they are, a mount ends,
and it is done exactly if they are those of a volume.

* `IsVolume`: the bytes of a volume, said of all bytes of a disk and the
  size of its blocks alone. `treeOf_eq_ok_iff_isVolume`: these are the disks
  on which a tree is found.
* `run_mount_of_not_legible`: what a mount comes to on a disk that cannot
  even be read like a volume.
* `mount_iff_isVolume`: what a mount comes to on any disk. It leaves the disk
  alone, so it comes to the same when it is repeated.
-/

set_option autoImplicit false

namespace MountSpace.Proofs.Volumes

open Effects Image Storage Trees

/-! ### The bytes of a volume -/

/-- These are the bytes of a disk with blocks of this size, on which there is
a volume with this tree. The first block starts with a superblock for the
disk, and the others with an image of the length that it says. -/
structure IsVolume (data : Bytes) (blockSize : Nat) (root : Tree) : Prop where
  header : Superblock.length ≤ blockSize
  one : 1 ≤ data.length / blockSize
  superblock : ∃ superblock : Superblock,
    data.take Superblock.length = superblock.encode
    ∧ superblock.blockSize.toNat = blockSize
    ∧ superblock.blockCount.toNat = data.length / blockSize
    ∧ superblock.imageLength.toNat
      ≤ (data.length / blockSize - 1) * blockSize
    ∧ Tree.decode (data.window blockSize superblock.imageLength.toNat)
      = .ok root
  directory : root.isDirectory = true

section

variable {disk : RamDisk}

/-- Eighteen bytes are a superblock if they are those that are written for
it. -/
theorem superblock_eq_ok_iff {data : Bytes} {superblock : Superblock}
    (length : data.length = Superblock.length) :
    Superblock.decode data = .ok superblock ↔ data = superblock.encode := by
  -- There is no room for anything behind it.
  rw [superblock_eq_ok_iff_take, ← length, List.take_length]
  exact eq_comm

/-- The disks with a tree are those with the bytes of a volume. -/
theorem treeOf_eq_ok_iff_isVolume (whole : Whole disk) {root : Tree} :
    treeOf disk = .ok root
      ↔ IsVolume (content disk) disk.blockSize root := by
  have length := length_content whole.some
  have onDisk := Nat.div_mul_le_self disk.size disk.blockSize
  -- What is read of a disk with a block are parts of its content.
  have first (header : Superblock.length ≤ disk.blockSize)
      (one : 1 ≤ disk.size / disk.blockSize) :
      start disk 0 Superblock.length
        = (content disk).take Superblock.length := by
    have block := Nat.mul_le_mul_right disk.blockSize one
    rw [start_eq_window header (by omega), Nat.zero_mul]
    rfl
  have image (one : 1 ≤ disk.size / disk.blockSize) {imageLength : Nat}
      (fits : imageLength
        ≤ (disk.size / disk.blockSize - 1) * disk.blockSize) :
      contents disk disk.blockSize 1 imageLength
        = (content disk).window disk.blockSize imageLength := by
    have blocks := Nat.sub_one_mul (disk.size / disk.blockSize) disk.blockSize
    have block := Nat.mul_le_mul_right disk.blockSize one
    rw [contents_eq_window whole.some (by omega), Nat.one_mul]
  rw [treeOf_eq]
  constructor
  · intro found
    obtain ⟨bytes, onImage, stands⟩ := bind_eq_ok_iff.mp found
    have one : 1 ≤ disk.size / disk.blockSize :=
      (readable_of_imageOf onImage stands).legible.one
    obtain ⟨header, superblock, decoded, ⟨size, count, fits⟩, rfl⟩ :=
      imageOf_eq_ok onImage
    obtain ⟨decodes, directory⟩ := treeIn_eq_ok_iff.mp stands
    rw [superblock_eq_ok_iff (length_start disk 0 _), first header one]
      at decoded
    rw [image one fits] at decodes
    rw [← length] at one
    refine ⟨header, one, ⟨superblock, decoded, size, ?_, ?_, decodes⟩,
      directory⟩
    · rw [length]
      exact count
    · rw [length]
      exact fits
  · intro isVolume
    obtain ⟨header, one, ⟨superblock, decoded, size, count, fits, decodes⟩,
      directory⟩ := isVolume
    rw [length] at one count fits
    rw [← first header one, ← superblock_eq_ok_iff (length_start disk 0 _)]
      at decoded
    rw [← image one fits] at decodes
    have admits : (geometryOf disk).Admits superblock := ⟨size, count, fits⟩
    rw [imageOf, if_neg (Nat.not_lt.mpr header), decoded, ok_bind,
      if_pos admits]
    exact treeIn_eq_ok_iff.mpr ⟨decodes, directory⟩

/-- Where no tree is found the disk is corrupted. -/
theorem corrupted_of_treeOf {fault : Fault}
    (failed : treeOf disk = .error fault) : fault = .corrupted := by
  rw [treeOf] at failed
  split at failed
  · exact (Except.error.inj failed).symm
  · split at failed
    · next _ none =>
      cases failed
      exact (superblock_eq_error_iff.mp none).1
    · split at failed
      · split at failed
        · next none =>
          cases failed
          exact (decode_eq_error_iff.mp none).1
        · cases failed
        · exact (Except.error.inj failed).symm
      · exact (Except.error.inj failed).symm

/-- A disk with a tree can be read like a volume. -/
theorem legible_of_treeOf {root : Tree} (found : treeOf disk = .ok root) :
    Legible (geometryOf disk) := by
  rw [treeOf_eq] at found
  obtain ⟨image, onImage, stands⟩ := bind_eq_ok_iff.mp found
  exact (readable_of_imageOf onImage stands).legible

end

/-! ### Disks that cannot be read like a volume -/

/-- A number that is too large to be told is told as a negative one. -/
theorem signedWord_neg {word : Nat} (large : sizeLimit ≤ word)
    (isWord : word < wordLimit) : signedWord word < 0 := by
  have same : signedWord word = (word : Int) - wordLimit := by
    rw [signedWord, ← Int.sub_bmod_right]
    apply Int.bmod_eq_of_le <;>
      simp only [wordLimit, sizeLimit] at * <;> omega
  rw [same]
  omega

/-- A device that answers the question for the size of a block with a
failure. -/
theorem run_geometry_of_untold {σ : Type} [BlockDevice σ] {medium : Medium σ}
    {answer : Int} (failed : answer ≤ 0)
    (told : (BlockDevice.control .blockSize).run medium.device
      = .ok (answer, medium.device)) :
    Medium.geometry.run medium = .refused .ioError medium := by
  have none : ¬ 0 < answer := by omega
  simp only [Medium.run_geometry, BlockDevice.run_blockSize, told,
    if_neg none]

/-- A mount on a device that starts and does not tell its geometry. -/
theorem run_mount_of_untold {σ : Type} [BlockDevice σ] {medium : Medium σ}
    {fault : Fault} (volume : Volume)
    (started : (Medium.control .start).run medium = .done () medium)
    (untold : Medium.geometry.run medium = .refused fault medium) :
    Volume.mount.run ⟨volume, medium⟩ = .refused fault ⟨volume, medium⟩ := by
  simp only [Volume.mount, Action.run_bind, Site.run_onMedium, started,
    untold]

section

variable {disk : RamDisk} (events : List Event)

/-- A disk whose blocks are too long does not tell their size. -/
theorem run_geometry_of_large (large : sizeLimit ≤ disk.blockSize)
    (isWord : disk.blockSize < wordLimit) :
    Medium.geometry.run ⟨disk, events⟩
      = .refused .ioError ⟨disk, events⟩ := by
  have told : (BlockDevice.control .blockSize).run disk
      = .ok (signedWord disk.blockSize, disk) := rfl
  exact run_geometry_of_untold (Int.le_of_lt (signedWord_neg large isWord))
    told

/-- A disk tells its own geometry or none. -/
theorem run_geometry_eq_or (isWord : disk.blockSize < wordLimit)
    (few : disk.size / disk.blockSize < sizeLimit) :
    Medium.geometry.run ⟨disk, events⟩
        = .done (geometryOf disk) ⟨disk, events⟩
      ∨ Medium.geometry.run ⟨disk, events⟩
        = .refused .ioError ⟨disk, events⟩ := by
  by_cases none : disk.blockSize = 0
  · have told : (BlockDevice.control .blockSize).run disk
        = .ok (signedWord disk.blockSize, disk) := rfl
    rw [none] at told
    exact .inr (run_geometry_of_untold (Int.le_refl 0) told)
  by_cases large : sizeLimit ≤ disk.blockSize
  · exact .inr (run_geometry_of_large events large isWord)
  · exact .inl (run_geometry events (Nat.pos_of_ne_zero none)
      (Nat.not_le.mp large) few)

/-- A disk without a block has no superblock. -/
theorem run_load_of_empty (empty : disk.size = 0)
    (header : Superblock.length ≤ disk.blockSize) :
    (Tree.load (geometryOf disk)).run ⟨disk, events⟩
      = .refused .ioError ⟨disk, events⟩ := by
  have holds : disk.holds 0 0 Superblock.length = .ok false := by
    have some : 0 < Superblock.length := by decide
    have short : Superblock.length < wordLimit := by decide
    have first := Nat.zero_mul disk.blockSize
    have stays : ¬ disk.blockSize < 0 + Superblock.length := by omega
    have starts : ¬ wordLimit ≤ 0 * disk.blockSize + 0 := by omega
    have ends : ¬ wordLimit
        ≤ 0 * disk.blockSize + 0 + Superblock.length := by omega
    have past : ¬ 0 * disk.blockSize + 0 + Superblock.length
        ≤ disk.size := by omega
    simp only [RamDisk.holds, if_neg stays, if_neg starts, if_neg ends,
      decide_eq_false past]
  have failed : (RamDisk.read 0 0 Superblock.length).run disk
      = .ok (none, disk) := by
    show (do
      if ← disk.holds 0 0 Superblock.length then _
      else return (none, disk)) = _
    rw [holds]
    rfl
  have failed : (BlockDevice.read 0 0 Superblock.length).run disk
      = .ok (none, disk) := failed
  have size : (geometryOf disk).blockSize = disk.blockSize := rfl
  rw [Tree.load, size, if_neg (Nat.not_lt.mpr header), Action.run_bind,
    Medium.run_readBlock, failed]

/-- A mount on a disk that cannot be read like a volume is refused. The
disk is corrupted, unless it has no block. -/
theorem run_mount_of_not_legible (whole : Whole disk) (volume : Volume)
    (narrow : ¬ Legible (geometryOf disk)) :
    ∃ fault after, Volume.mount.run ⟨volume, ⟨disk, events⟩⟩
        = .refused fault ⟨volume, ⟨disk, after⟩⟩
      ∧ (fault = .corrupted
        ∨ fault = .ioError ∧ disk.size / disk.blockSize = 0) := by
  have few : disk.size / disk.blockSize < sizeLimit :=
    Nat.lt_of_le_of_lt (Nat.div_le_self _ _) whole.small
  have started : (Medium.control .start).run ⟨disk, events⟩
      = .done () ⟨disk, events⟩ := run_idle events (Or.inl rfl)
  by_cases large : sizeLimit ≤ disk.blockSize
  · have told := run_geometry_of_large events large whole.word
    have none : disk.size / disk.blockSize = 0 :=
      Nat.div_eq_of_lt (Nat.lt_of_lt_of_le whole.small large)
    exact ⟨.ioError, events, run_mount_of_untold volume started told,
      .inr ⟨rfl, none⟩⟩
  have told := run_geometry events whole.some (Nat.not_le.mp large) few
  rw [run_mount_of_told volume started told]
  by_cases header : disk.blockSize < Superblock.length
  · have loaded : (Tree.load (geometryOf disk)).run ⟨disk, events⟩
        = .refused .corrupted ⟨disk, events⟩ := by
      rw [Tree.load, if_pos (show (geometryOf disk).blockSize
        < Superblock.length from header)]
      rfl
    rw [loaded]
    exact ⟨_, _, rfl, .inl rfl⟩
  · -- All that a disk with a block could be short of is a block.
    have header := Nat.not_lt.mp header
    have none : disk.size / disk.blockSize = 0 := by
      refine Nat.eq_zero_of_not_pos fun one => narrow ?_
      have onDisk := Nat.div_mul_le_self disk.size disk.blockSize
      exact ⟨header, one, Nat.not_le.mp large, few, Nat.lt_of_le_of_lt onDisk
        (Nat.lt_trans whole.small (by decide))⟩
    have empty : disk.size = 0 := by
      rw [← Nat.div_mul_cancel whole.divides, none, Nat.zero_mul]
    rw [run_load_of_empty events empty header]
    exact ⟨_, _, rfl, .inr ⟨rfl, none⟩⟩

end

/-! ### Any disk -/

section

variable {σ : Type} [BlockDevice σ]

/-- A mount makes no call that changes the device, whatever the device
answers. -/
theorem undisturbed_of_mount {site after : Site Volume (Probe σ)}
    (left : (Volume.mount.run site).after? = some after) :
    Undisturbed site.medium.device after.medium.device := by
  have keeps : Keeps (fun other : Site Volume (Probe σ) =>
      Spared site.medium.device other.medium) Volume.mount := by
    refine keeps_bind (ensures_medium ?_) fun _ => ?_
    · refine keeps_bind (keeps_control_spared id) fun _ => ?_
      refine keeps_bind keeps_geometry_spared fun geometry => ?_
      exact keeps_bind (keeps_onRefusal (keeps_load_spared geometry)
        fun _ => keeps_note_spared _) fun _ => keeps_pure _
    · refine keeps_bind (keeps_modify fun _ spared => spared) fun _ => ?_
      exact ensures_medium (keeps_note_spared _)
  exact keeps.of_after? (.refl _) left

end

/-- Whatever is on a disk, a mount ends and leaves the disk alone. It is done
if the bytes of the disk are those of a volume, and then its tree is mounted
and no file is open. Otherwise it is refused and leaves the volume alone; the
disk is corrupted then, unless it has no block. So any mount of the same disk
that follows comes to the same. On no device at all does a mount write or
erase. -/
theorem mount_iff_isVolume {disk : RamDisk} (whole : Whole disk)
    (volume : Volume) (events : List Event) :
    (∀ root, IsVolume (content disk) disk.blockSize root →
        ∃ after, Volume.mount.run ⟨volume, ⟨disk, events⟩⟩
          = .done () ⟨⟨some ⟨root, [], 0, geometryOf disk⟩⟩, ⟨disk, after⟩⟩)
      ∧ ((∀ root, ¬ IsVolume (content disk) disk.blockSize root) →
        ∃ fault after, Volume.mount.run ⟨volume, ⟨disk, events⟩⟩
            = .refused fault ⟨volume, ⟨disk, after⟩⟩
          ∧ (fault = .corrupted
            ∨ fault = .ioError ∧ disk.size / disk.blockSize = 0))
      ∧ (∀ after, Volume.mount.run ⟨volume, ⟨disk, events⟩⟩ = .done () after →
        ∀ other later, ∃ again,
          Volume.mount.run ⟨other, ⟨after.medium.device, later⟩⟩
            = .done () again
          ∧ again.driver = after.driver)
      ∧ ∀ (σ : Type) [BlockDevice σ] (site after : Site Volume (Probe σ)),
        (Volume.mount.run site).after? = some after →
          Undisturbed site.medium.device after.medium.device := by
  have done (volume : Volume) (events : List Event) (root : Tree)
      (isVolume : IsVolume (content disk) disk.blockSize root) :
      ∃ after, Volume.mount.run ⟨volume, ⟨disk, events⟩⟩
        = .done () ⟨⟨some ⟨root, [], 0, geometryOf disk⟩⟩,
          ⟨disk, after⟩⟩ := by
    have found := (treeOf_eq_ok_iff_isVolume whole).mpr isVolume
    rw [run_mount volume events (legible_of_treeOf found), found]
    exact ⟨_, rfl⟩
  have refused
      (none : ∀ root, ¬ IsVolume (content disk) disk.blockSize root) :
      ∃ fault after, Volume.mount.run ⟨volume, ⟨disk, events⟩⟩
          = .refused fault ⟨volume, ⟨disk, after⟩⟩
        ∧ (fault = .corrupted
          ∨ fault = .ioError ∧ disk.size / disk.blockSize = 0) := by
    by_cases legible : Legible (geometryOf disk)
    · rw [run_mount volume events legible]
      cases found : treeOf disk with
      | error fault =>
        exact ⟨_, _, rfl, .inl (corrupted_of_treeOf found)⟩
      | ok root =>
        exact absurd ((treeOf_eq_ok_iff_isVolume whole).mp found) (none root)
    · exact run_mount_of_not_legible events whole volume legible
  refine ⟨done volume events, refused, fun after mounts other later => ?_,
    fun σ _ site after => undisturbed_of_mount⟩
  by_cases some : ∃ root, IsVolume (content disk) disk.blockSize root
  · obtain ⟨root, isVolume⟩ := some
    obtain ⟨_, first⟩ := done volume events root isVolume
    obtain ⟨_, second⟩ := done other later root isVolume
    have same := (Ending.done.inj (first.symm.trans mounts)).2
    have device : after.medium.device = disk := by rw [← same]
    have driver : after.driver = ⟨some ⟨root, [], 0, geometryOf disk⟩⟩ := by
      rw [← same]
    rw [device, driver]
    exact ⟨_, second, rfl⟩
  · -- Where there is no volume the first mount has not been done.
    obtain ⟨_, _, fails, _⟩ := refused fun root isVolume =>
      some ⟨root, isVolume⟩
    cases fails.symm.trans mounts

/-- The bytes of a volume with an empty directory, on three blocks. -/
def bare : Bytes :=
  (Superblock.mk 18 3 (.ofNat Tree.empty.encode.length)).encode
    ++ Tree.empty.encode ++ Bytes.zeros 31

/-- A disk of these bytes is mounted, also in the place of another tree. -/
theorem mount_iff_isVolume_sample :
    ∃ disk, RamDisk.ofBytes bare 18 = .ok disk ∧ Whole disk
      ∧ ∃ after, Volume.mount.run (⟨⟨some ⟨.directory [("f", .file [1])], [],
          5, ⟨18, 9⟩⟩⟩, ⟨disk, []⟩⟩ : Site Volume RamDisk)
        = .done () ⟨⟨some ⟨Tree.empty, [], 0, ⟨18, 3⟩⟩⟩,
          ⟨disk, after⟩⟩ := by
  have made : RamDisk.ofBytes bare 18
      = .ok ⟨54, 18, RamDisk.fill 18 0 (bare.take 54) ∅⟩ := rfl
  obtain ⟨whole, bytes⟩ := content_ofBytes (by decide) (by decide) made
  have isVolume : IsVolume (bare.take 54) 18 Tree.empty :=
    ⟨by decide, by decide, ⟨⟨18, 3, .ofNat Tree.empty.encode.length⟩, rfl, rfl,
      rfl, by decide, rfl⟩, rfl⟩
  rw [show bare.length - bare.length % 18 = 54 from rfl] at bytes
  rw [← bytes] at isVolume
  exact ⟨_, made, whole,
    (mount_iff_isVolume whole _ []).1 Tree.empty isVolume⟩

end MountSpace.Proofs.Volumes
