import MountSpace.Proofs.Volumes.Requests

/-!
# `MountSpace.Proofs.Volumes.Rooted`: mounted volumes on any device

A device can answer what it likes, but it cannot make a mounted volume
lose its tree, nor give it one that it could not hold.

* `Rooted`: the volume is mounted, with a well-formed directory.
* `ensures_mounted`, `ensures_rooted`: a mount that is done leads to such
  a volume, with no file open.
* `ensures_formatted`: to make a device empty does so with what is mounted.
* `keeps_rooted`: requests about files keep it rooted, done or refused.
-/

set_option autoImplicit false

namespace MountSpace.Proofs.Volumes

open Effects Storage Trees

variable {σ α : Type} [BlockDevice σ]

/-- The volume is mounted, and its tree is one that a volume can hold. -/
def Rooted (volume : Volume) : Prop :=
  ∃ mounted, volume.mounted = some mounted ∧ IsRoot mounted.root

/-- What is read is checked before it becomes a tree. No file is open in
it yet. -/
theorem ensures_mounted :
    Ensures (fun _ : Site Volume σ => True) Volume.mount
      (fun _ site => ∃ root geometry, Fits geometry root
        ∧ site.driver = ⟨some ⟨root, [], 0, geometry⟩⟩)
      (fun _ _ => True) := by
  have read : Ensures (fun _ : Medium σ => True)
      (do
        Medium.control .start
        let geometry ← Medium.geometry
        let root ← (Tree.load geometry).onRefusal fun fault =>
          Medium.note (.volumeMountFailed fault)
        return (root, geometry))
      (fun result _ => Fits result.2 result.1)
      (fun _ _ => True) := by
    refine ensures_bind (keeps_true _) fun _ => ?_
    refine ensures_bind (keeps_true _) fun geometry => ?_
    have loaded := ensures_load (fun _ _ => keeps_true
      (Medium.ask (BlockDevice.read (σ := σ) _ 0 _))) geometry
    refine ensures_bind (ensures_onRefusal loaded fun _ => keeps_true _) ?_
    intro root medium known
    exact known.1
  have mounts (volume : Volume) :
      Ensures (At volume fun _ : Medium σ => True) Volume.mount
        (fun _ site => ∃ root geometry, Fits geometry root
          ∧ site.driver = ⟨some ⟨root, [], 0, geometry⟩⟩)
        (fun _ => At volume fun _ => True) := by
    refine ensures_bind (ensures_onMedium read) ?_
    intro result site ⟨_, fits⟩
    exact ⟨_, _, fits, rfl⟩
  intro site _
  exact (mounts site.driver).imp (fun _ start => start)
    (fun _ _ known => known) (fun _ _ _ => trivial) site ⟨rfl, trivial⟩

/-- What is mounted when a device is made empty is empty afterwards, with no
file open. -/
theorem ensures_formatted {volume : Volume} :
    Ensures (fun site : Site Volume σ => site.driver = volume) Volume.format
      (fun _ site => ∃ geometry : Geometry, Fits geometry Tree.empty
        ∧ site.driver = ⟨volume.mounted.map fun mounted =>
          { mounted with root := Tree.empty, handles := [], geometry }⟩)
      (fun _ _ => True) := by
  have written : Ensures (fun _ : Medium σ => True)
      (do
        Medium.control .start
        let geometry ← Medium.geometry
        if geometry.blockCount < 2 ∨ geometry.blockSize < Superblock.length
          then Action.refuse .noSpace
        Tree.empty.store geometry
        return geometry)
      (fun geometry _ => Fits geometry Tree.empty)
      (fun _ _ => True) := by
    refine ensures_bind (keeps_true _) fun _ => ?_
    refine ensures_bind (keeps_true _) fun geometry => ?_
    split
    · exact fun _ _ => trivial
    · next large =>
      refine ensures_bind (ensures_store_room geometry Tree.empty) ?_
      rintro _ _ ⟨room, fields⟩
      have readable : Readable geometry :=
        ⟨by omega, by omega, fields.size, fields.count⟩
      exact ⟨isRoot_empty, readable, room⟩
  have whole : Ensures (At volume fun _ : Medium σ => True) Volume.format
      (fun _ site => ∃ geometry : Geometry, Fits geometry Tree.empty
        ∧ site.driver = ⟨volume.mounted.map fun mounted =>
          { mounted with root := Tree.empty, handles := [], geometry }⟩)
      (fun _ => At volume fun _ => True) := by
    refine ensures_bind (ensures_onMedium written) ?_
    rintro geometry site ⟨rfl, fits⟩
    exact ⟨geometry, fits, rfl⟩
  exact whole.imp (fun _ same => ⟨same, trivial⟩) (fun _ _ known => known)
    (fun _ _ _ => trivial)

theorem ensures_rooted :
    Ensures (fun _ : Site Volume σ => True) Volume.mount
      (fun _ site => Rooted site.driver) (fun _ _ => True) := by
  refine ensures_mounted.imp (fun _ start => start) ?_ (fun _ _ _ => trivial)
  rintro _ site ⟨root, geometry, fits, mounted⟩
  rw [mounted]
  exact ⟨_, rfl, fits.isRoot⟩

/-- A plan for a rooted volume leads to another one. -/
theorem keeps_rooted {request : Request α} (files : AboutFiles request) :
    Keeps (fun site : Site Volume σ => Rooted site.driver)
      (Volume.serve request) := by
  intro site rooted
  refine (ensures_planned files).imp (fun _ same => same) ?_ ?_ site rfl
  · rintro value after ⟨plan, made, _, next⟩
    obtain ⟨mounted, known, follows⟩ := follows_planned made
    obtain ⟨other, same, isRoot⟩ := rooted
    cases known.symm.trans same
    rw [next]
    exact ⟨plan.next, rfl, (follows isRoot).isRoot⟩
  · intro fault after same
    rw [same]
    exact rooted

end MountSpace.Proofs.Volumes
