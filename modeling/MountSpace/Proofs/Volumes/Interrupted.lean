import MountSpace.Proofs.Storage.Interruption
import MountSpace.Proofs.Volumes.Persistence

/-!
# `MountSpace.Proofs.Volumes.Interrupted`: requests that fail at the device

A request that changes the tree writes it to the device. If the device
fails on the way the volume keeps its tree, but the new one has been
written over the old one in place, and there is no second copy.

* `Finds`: what a new volume finds on a disk (`finds_treeOf`).
* `remains_of_refused`: which of the calls were made says what it finds.
  That is the old tree before the first of them, and the new one after the
  last. In between it is whatever the bytes happen to stand for
  (`Remains`).
* `corrupted_of_refused`: so a single failed write can leave a disk that
  cannot be mounted any more.
-/

set_option autoImplicit false

namespace MountSpace.Proofs.Volumes

open Effects Image Storage Trees

/-- What a new volume finds on the disk, which it leaves alone: a tree, or
a reason why there is none. -/
def Finds (disk : RamDisk) : Except Fault Tree → Prop
  | .ok root => Restores disk root
  | .error fault => ∀ events, ∃ after,
    Volume.mount.run ⟨.fresh, ⟨disk, events⟩⟩
      = .refused fault ⟨.fresh, ⟨disk, after⟩⟩

theorem finds_treeOf {disk : RamDisk}
    (readable : Readable (geometryOf disk)) : Finds disk (treeOf disk) := by
  cases found : treeOf disk with
  | ok root => exact (restores_iff readable).mpr found
  | error fault =>
    intro events
    have run := run_mount .fresh events readable.legible
    rw [found] at run
    exact ⟨_, run⟩

/-- What a new volume finds on a disk on which the first `n` calls of a
commit have been made and no others. The image there was `old`, for the
tree `before`, and was to become one for the tree `next`. -/
structure Remains (disk : RamDisk) (old : Bytes) (before next : Tree)
    (n : Nat) : Prop where
  /-- The first block of the image could not be erased. -/
  unbegun : n = 0 → Finds disk (.ok before)
  /-- Not all blocks of the image were written, or the first block of the
  disk could not be erased. -/
  mixed : n ≤ 2 * blocksFor disk.blockSize next.encode.length →
    Finds disk (treeIn (interrupted disk.blockSize n next.encode old))
  /-- The first block of the disk could not be erased. -/
  written : n = 2 * blocksFor disk.blockSize next.encode.length →
    Finds disk (if next.encode.length = old.length then .ok next
      else .error .corrupted)
  /-- It was erased, but could not be written. -/
  headless : n = 2 * blocksFor disk.blockSize next.encode.length + 1 →
    Finds disk (.error .corrupted)
  /-- All was written, but the device could not sync. -/
  unsynced : n = 2 * blocksFor disk.blockSize next.encode.length + 2 →
    Finds disk (.ok next)

/-- The calls that were made say what is found. -/
theorem remains_of_effects {disk : RamDisk} {root next : Tree} {old : Bytes}
    {n : Nat} (found : imageOf disk = .ok old)
    (stands : treeIn old = .ok root) (isRoot : IsRoot next)
    (few : n < (committing (geometryOf disk) next).length)
    (fits : (replacing disk.blockSize 1 next.encode).length ≤ n →
      next.encode.length ≤ (geometryOf disk).capacity
        ∧ next.encode.length < fieldLimit) :
    Remains (effects ((committing (geometryOf disk) next).take n) disk) old
      root next n := by
  have readable := readable_of_imageOf found stands
  have some : 0 < disk.blockSize := readable.blockSize_pos
  have length := length_replacing some 1 next.encode
  have geometry := geometryOf_effects
    ((committing (geometryOf disk) next).take n) disk
  have size := congrArg Geometry.blockSize geometry
  have size : (effects ((committing (geometryOf disk) next).take n)
      disk).blockSize = disk.blockSize := size
  have finds := finds_treeOf (geometry.symm ▸ readable)
  rw [treeOf_effects_committing readable isRoot found few fits] at finds
  have mixed (early : n ≤ 2 * blocksFor disk.blockSize next.encode.length) :
      leftBehind disk.blockSize next old n
        = treeIn (interrupted disk.blockSize n next.encode old) :=
    if_pos early
  refine ⟨?_, ?_, ?_, ?_, ?_⟩
  · intro none
    rw [mixed (by omega), none, interrupted_zero, stands] at finds
    exact none ▸ finds
  · rw [size]
    intro early
    rw [mixed early] at finds
    exact finds
  · rw [size]
    intro last
    obtain ⟨_, short⟩ := fits (by omega)
    rw [mixed (Nat.le_of_eq last), last,
      treeIn_interrupted_last some isRoot short] at finds
    exact last ▸ finds
  · rw [size]
    intro erased
    have nothing : leftBehind disk.blockSize next old n
        = .error .corrupted := by
      rw [leftBehind, if_neg (by omega), if_pos erased]
    rw [nothing] at finds
    exact finds
  · rw [size]
    intro synced
    have whole : leftBehind disk.blockSize next old n = .ok next := by
      rw [leftBehind, if_neg (by omega), if_neg (by omega)]
    rw [whole] at finds
    exact finds

section

variable {σ α : Type} [BlockDevice σ] {layer : Layer σ}
  {site after : Site Volume σ} {mounted : Mounted} {disk : RamDisk}
  {request : Request α}

/-- A volume holds the tree that is on the disk behind a device on which a
failed call does nothing. Then a request about files that fails at the
device has not been begun, or `n` calls of the commit of the planned tree
were made, and what they leave remains. -/
theorem remains_of_refused (stops : layer.FailStop)
    (honest : layer.honest site.medium.device)
    (behind : layer.disk site.medium.device = disk)
    (known : site.driver = ⟨some mounted⟩)
    (geometry : mounted.geometry = geometryOf disk)
    (found : treeOf disk = .ok mounted.root) (files : AboutFiles request)
    (refused : (Volume.serve request).run site = .refused .ioError after) :
    after = site ∧ Finds disk (.ok mounted.root)
      ∨ ∃ plan old n, planned ⟨some mounted⟩ request = .ok plan
        ∧ plan.stores = true
        ∧ imageOf disk = .ok old
        ∧ n < 2 * blocksFor disk.blockSize plan.next.root.encode.length + 3
        ∧ layer.disk after.medium.device
          = effects ((committing (geometryOf disk) plan.next.root).take n)
            disk
        ∧ Remains (layer.disk after.medium.device) old mounted.root
          plan.next.root n := by
  obtain ⟨old, image, stands⟩ :=
    bind_eq_ok_iff.mp ((treeOf_eq disk).symm.trans found)
  have readable := readable_of_imageOf image stands
  obtain ⟨decoded, directory⟩ := treeIn_eq_ok_iff.mp stands
  have isRoot : IsRoot mounted.root :=
    ⟨wellFormed_of_decode decoded, directory⟩
  rcases refused_cases files refused with
    ⟨_, same⟩ | ⟨plan, medium, made, stores, ends, rfl⟩
  · exact Or.inl ⟨same, (restores_iff readable).mpr found⟩
  · rw [known] at made
    obtain ⟨_, same, follows⟩ := follows_planned made
    cases same
    have next := (follows isRoot).isRoot
    rw [(follows isRoot).geometry.trans geometry] at ends
    have shows : layer.Shows disk site.medium.events site.medium :=
      ⟨honest, behind, rfl⟩
    have broken := ensures_store_calls stops readable plan.next.root
      site.medium shows
    rw [ends] at broken
    obtain ⟨n, few, left, fits⟩ := broken rfl
    have remains := remains_of_effects image stands next few fits
    rw [length_committing readable.blockSize_pos] at few
    rw [← left] at remains
    exact Or.inr ⟨plan, old, n, made, stores, image, few, left, remains⟩

end

/-- A disk of three blocks that is formatted and mounted, and from then on
fails to write the first block of the image. -/
def torn : Option (Site Volume (Probe RamDisk)) := do
  let site ← asked .format ⟨.fresh, ⟨⟨⟨54, 18, ∅⟩, {}, []⟩, []⟩⟩
  let site ← asked .mount site
  return failing { writes := [1] } site

/-- What is known of it: its tree is on the disk, and the request fails at
the device and leaves no tree there. -/
theorem torn_eq_some :
    ∃ site after : Site Volume (Probe RamDisk),
      site.driver = ⟨some ⟨Tree.empty, [], 0, ⟨18, 3⟩⟩⟩
        ∧ site.medium.device.faults.answers = []
        ∧ geometryOf site.medium.device.device = ⟨18, 3⟩
        ∧ treeOf site.medium.device.device = .ok Tree.empty
        ∧ (Volume.serve (.makeDirectory "x")).run site
          = .refused .ioError after
        ∧ geometryOf after.medium.device.device = ⟨18, 3⟩
        ∧ treeOf after.medium.device.device = .error .corrupted := by
  have shape : torn.any (fun site =>
      site.driver = ⟨some ⟨Tree.empty, [], 0, ⟨18, 3⟩⟩⟩
        ∧ site.medium.device.faults.answers = []
        ∧ geometryOf site.medium.device.device = ⟨18, 3⟩
        ∧ treeOf site.medium.device.device = .ok Tree.empty
        ∧ (match (Volume.serve (.makeDirectory "x")).run site with
          | .refused .ioError after => some
            (geometryOf after.medium.device.device,
              treeOf after.medium.device.device)
          | _ => none) = some (⟨18, 3⟩, .error .corrupted)) := by
    decide +kernel
  obtain ⟨site, _, known⟩ := (Option.any_eq_true _ _).mp shape
  obtain ⟨driver, answers, geometry, found, ends⟩ := of_decide_eq_true known
  split at ends
  · next after refused =>
    obtain ⟨same, lost⟩ := Prod.mk.inj (Option.some.inj ends)
    exact ⟨site, after, driver, answers, geometry, found, refused, same, lost⟩
  · nomatch ends

/-- What remains there is an image that was not written. -/
theorem remains_of_refused_sample :
    ∃ (site after : Site Volume (Probe RamDisk)) (plan : Plan Unit)
      (old : Bytes) (n : Nat),
      treeOf site.medium.device.device = .ok Tree.empty
        ∧ (Volume.serve (.makeDirectory "x")).run site
          = .refused .ioError after
        ∧ planned site.driver (.makeDirectory "x") = .ok plan
        ∧ imageOf site.medium.device.device = .ok old
        ∧ Remains after.medium.device.device old Tree.empty plan.next.root
          n := by
  obtain ⟨site, after, driver, answers, geometry, found, refused, _, lost⟩ :=
    torn_eq_some
  have only : OnlyFails site.medium.device.faults := by
    intro code answer set
    rw [answers] at set
    nomatch set
  have files : AboutFiles (.makeDirectory "x") := trivial
  rcases remains_of_refused (failStop_probe failStop_direct)
    ⟨trivial, only⟩ rfl driver geometry.symm found files refused with
    ⟨rfl, _⟩ | ⟨plan, old, n, made, _, image, _, _, remains⟩
  · nomatch found.symm.trans lost
  · exact ⟨site, after, plan, old, n, found, refused, driver ▸ made, image,
      remains⟩

/-- The tree in memory is the one on the disk, and one write fails. Then a
new volume finds neither the old tree nor the new one. -/
theorem corrupted_of_refused :
    ∃ (site after : Site Volume (Probe RamDisk)) (mounted : Mounted),
      site.driver = ⟨some mounted⟩
        ∧ mounted.geometry = geometryOf site.medium.device.device
        ∧ treeOf site.medium.device.device = .ok mounted.root
        ∧ Finds site.medium.device.device (.ok mounted.root)
        ∧ (Volume.serve (.makeDirectory "x")).run site
          = .refused .ioError after
        ∧ Finds after.medium.device.device (.error .corrupted) := by
  obtain ⟨site, after, driver, _, geometry, found, refused, same, lost⟩ :=
    torn_eq_some
  have readable : Readable ⟨18, 3⟩ :=
    ⟨by decide, by decide, by decide, by decide⟩
  have before := finds_treeOf (geometry.symm ▸ readable)
  have left := finds_treeOf (same.symm ▸ readable)
  rw [found] at before
  rw [lost] at left
  exact ⟨site, after, _, driver, geometry.symm, found, before, refused, left⟩

end MountSpace.Proofs.Volumes
