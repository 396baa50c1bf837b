import MountSpace.Proofs.Storage.Trees
import MountSpace.Proofs.Volumes.PlannedTrees

/-!
# `MountSpace.Proofs.Volumes.Requests`: requests behind a layer

What a volume does when its device can fail at any call, one theorem for
each kind of request.

* `ensures_files`: a request about files that is done has carried its plan
  out, and if that stores a tree the disk holds it. One that is refused
  has left the volume as it was.
* `ensures_mount`, `ensures_unmount`, `ensures_format`: the same of the
  requests about the whole volume.
* `Used`: the sites that any order of requests leads to, with the device
  as it likes in between, but nothing else writing to the disk.
  `Used.behind` is the invariant of all of them.
-/

set_option autoImplicit false

namespace MountSpace.Proofs.Volumes

open Effects Storage Trees

section

variable {σ α : Type}

/-! ### A volume and its medium -/

/-- What is known of the driver alone. -/
theorem keeps_onMedium {δ : Type} (good : δ → Prop)
    (action : Action (Medium σ) α) :
    Keeps (fun site : Site δ σ => good site.driver)
      (Site.onMedium action) := by
  refine keeps_within ?_ action
  exact fun _ _ same => same

/-- A site with this volume, and with a medium of which this is known. -/
def At (volume : Volume) (inside : Medium σ → Prop)
    (site : Site Volume σ) : Prop :=
  site.driver = volume ∧ inside site.medium

variable {volume : Volume}

theorem ensures_onMedium {before : Medium σ → Prop}
    {done : α → Medium σ → Prop} {refused : Fault → Medium σ → Prop}
    {action : Action (Medium σ) α}
    (ensures : Ensures before action done refused) :
    Ensures (At volume before) (Site.onMedium action)
      (fun value => At volume (done value))
      (fun fault => At volume (refused fault)) := by
  intro site ⟨same, start⟩
  have meets := ensures site.medium start
  rw [Site.run_onMedium]
  cases ending : action.run site.medium with
  | done value medium =>
    rw [ending] at meets
    exact ⟨same, meets⟩
  | refused fault medium =>
    rw [ending] at meets
    exact ⟨same, meets⟩
  | stopped trap => trivial

/-- What is known of the medium alone. -/
theorem ensures_medium {before : Medium σ → Prop}
    {done : α → Medium σ → Prop} {refused : Fault → Medium σ → Prop}
    {action : Action (Medium σ) α}
    (ensures : Ensures before action done refused) :
    Ensures (fun site : Site Volume σ => before site.medium)
      (Site.onMedium action) (fun value site => done value site.medium)
      (fun fault site => refused fault site.medium) :=
  fun site start => (ensures_onMedium ensures site ⟨rfl, start⟩).imp
    (fun _ _ known => known.2) (fun _ _ known => known.2)

/-- A tree that can be mounted from a device of this geometry. -/
structure Sound (geometry : Geometry) (mounted : Mounted) : Prop where
  isRoot : IsRoot mounted.root
  geometry : mounted.geometry = geometry

variable [BlockDevice σ]

/-- A volume on a disk of this geometry behind a layer. -/
structure Behind (layer : Layer σ) (geometry : Geometry)
    (site : Site Volume σ) : Prop where
  has : layer.Has geometry site.medium
  sound : ∀ mounted, site.driver.mounted = some mounted →
    Sound geometry mounted

variable {layer : Layer σ} {geometry : Geometry} {disk : RamDisk}
  {events : List Event}

/-! ### Requests about the whole volume -/

/-- What is mounted comes from a device of the geometry of the disk. -/
theorem ensures_mount (suitable : Suitable (geometryOf disk)) :
    Ensures (At volume (layer.Shows disk events)) Volume.mount
      (fun _ site => ∃ mounted, Sound (geometryOf disk) mounted
        ∧ At ⟨some mounted⟩ (layer.Has (geometryOf disk)) site)
      (fun _ => At volume (layer.Has (geometryOf disk))) := by
  have loaded : Ensures (layer.Has (geometryOf disk))
      ((Tree.load (geometryOf disk)).onRefusal fun fault =>
        Medium.note (.volumeMountFailed fault))
      (fun root medium => IsRoot root ∧ layer.Has (geometryOf disk) medium)
      (fun _ => layer.Has (geometryOf disk)) :=
    (ensures_onRefusal (ensures_load keeps_read _) fun _ => keeps_note _).imp
      (fun _ has => has) (fun _ _ known => ⟨known.1.isRoot, known.2⟩)
      (fun _ _ has => has)
  have read : Ensures (layer.Shows disk events)
      (do
        Medium.control .start
        let found ← Medium.geometry
        let root ← (Tree.load found).onRefusal fun fault =>
          Medium.note (.volumeMountFailed fault)
        return (root, found))
      (fun result medium => (IsRoot result.1 ∧ result.2 = geometryOf disk)
        ∧ layer.Has (geometryOf disk) medium)
      (fun _ => layer.Has (geometryOf disk)) := by
    refine ensures_bind (ensures_control (Or.inl rfl)) ?_
    intro _
    refine ensures_bind (ensures_geometry suitable) ?_
    intro found medium ⟨same, shows⟩
    subst same
    have has := has_of_shows shows
    refine ensures_bind loaded (fun root => ?_) medium has
    intro medium ⟨isRoot, has⟩
    exact ⟨⟨isRoot, rfl⟩, has⟩
  refine ensures_bind (ensures_onMedium read) ?_
  intro result site ⟨same, ⟨isRoot, found⟩, has⟩
  exact ⟨_, ⟨isRoot, found⟩, rfl, has⟩

/-- The tree is gone even if the device then fails. -/
theorem ensures_unmount :
    Ensures (At volume (layer.Has geometry)) Volume.unmount
      (fun _ => At ⟨none⟩ (layer.Has geometry))
      (fun _ site => At volume (layer.Has geometry) site
        ∨ At ⟨none⟩ (layer.Has geometry) site) := by
  intro site ⟨same, has⟩
  rw [Volume.unmount, Action.run_bind, run_getMounted, current]
  -- Without a tree nothing is asked of the device.
  cases found : site.driver.mounted with
  | none => exact Or.inl ⟨same, has⟩
  | some mounted =>
    have left : Ensures (layer.Has geometry)
        (do
          Medium.control .sync
          Medium.control .shutdown)
        (fun _ => layer.Has geometry) (fun _ => layer.Has geometry) :=
      keeps_bind (keeps_control .sync) fun _ => keeps_control .shutdown
    have rest : Ensures (At ⟨none⟩ (layer.Has geometry))
        (Site.onMedium do
          Medium.control .sync
          Medium.control .shutdown)
        (fun _ => At ⟨none⟩ (layer.Has geometry))
        (fun _ site => At volume (layer.Has geometry) site
          ∨ At ⟨none⟩ (layer.Has geometry) site) :=
      (ensures_onMedium left).imp (fun _ start => start)
        (fun _ _ known => known) (fun _ _ known => Or.inr known)
    exact rest { site with driver := ⟨none⟩ } ⟨rfl, has⟩

/-- What is mounted becomes empty, and so does the disk. -/
theorem ensures_format (suitable : Suitable (geometryOf disk)) :
    Ensures (At volume (layer.Shows disk events)) Volume.format
      (fun _ => At ⟨volume.mounted.map fun mounted =>
          { mounted with
            root := Tree.empty
            handles := []
            geometry := geometryOf disk }⟩
        (layer.Shows (stored disk Tree.empty)
          (.volumeFormatted (geometryOf disk).blockCount
            :: .imageCommitted Tree.empty.encode.length :: events)))
      (fun _ => At volume (layer.Has (geometryOf disk))) := by
  have two := suitable.two
  have header := suitable.header
  have written : Ensures (layer.Shows disk events)
      (do
        Medium.control .start
        let found ← Medium.geometry
        if found.blockCount < 2 ∨ found.blockSize < Superblock.length then
          Action.refuse .noSpace
        Tree.empty.store found
        return found)
      (fun found medium => found = geometryOf disk
        ∧ layer.Shows (stored disk Tree.empty)
          (.imageCommitted Tree.empty.encode.length :: events) medium)
      (fun _ => layer.Has (geometryOf disk)) := by
    refine ensures_bind (ensures_control (Or.inl rfl)) ?_
    intro _
    refine ensures_bind (ensures_geometry suitable) ?_
    intro found medium ⟨same, shows⟩
    subst same
    -- A suitable device has a block for the image and takes the superblock.
    rw [if_neg (by omega)]
    refine ensures_bind (ensures_store suitable Tree.empty) (fun _ => ?_)
      medium shows
    intro medium ⟨_, shows⟩
    exact ⟨rfl, shows⟩
  refine ensures_bind (ensures_onMedium written) ?_
  intro found site ⟨same, foundSame, shows⟩
  subst same foundSame
  exact ⟨rfl, shows.honest, shows.disk, congrArg (List.cons _) shows.events⟩

/-! ### Requests about files -/

/-- What is left behind when a plan has been carried out: its answer, what
it mounts, and on the disk its tree, if that is stored. -/
def CarriedOut (layer : Layer σ) (disk : RamDisk) (events : List Event)
    (plan : Plan α) (value : α) (site : Site Volume σ) : Prop :=
  value = plan.value
    ∧ At ⟨some plan.next⟩
      (if plan.stores then
        fun medium =>
          plan.next.root.encode.length ≤ (geometryOf disk).capacity
            ∧ layer.Shows (stored disk plan.next.root)
              (.imageCommitted plan.next.root.encode.length :: events)
              medium
      else layer.Shows disk events) site

theorem ensures_perform (suitable : Suitable (geometryOf disk))
    (plan : Plan α) (same : plan.next.geometry = geometryOf disk) :
    Ensures (At volume (layer.Shows disk events)) (Volume.perform plan)
      (CarriedOut layer disk events plan)
      (fun _ => At volume (layer.Has (geometryOf disk))) := by
  rw [Volume.perform, same]
  by_cases stores : plan.stores = true
  · rw [if_pos stores]
    refine ensures_bind (ensures_onMedium (ensures_store suitable _))
      fun _ => ?_
    rintro site ⟨_, known⟩
    refine ⟨rfl, rfl, ?_⟩
    rw [if_pos stores]
    exact known
  · rw [if_neg stores]
    rintro site ⟨_, known⟩
    refine ⟨rfl, rfl, ?_⟩
    rw [if_neg stores]
    exact known

/-- A request about files is done when its plan has been carried out, and
leaves the volume as it was when it is refused. -/
theorem ensures_files (suitable : Suitable (geometryOf disk))
    (sound : ∀ mounted, volume.mounted = some mounted →
      Sound (geometryOf disk) mounted)
    {request : Request α} (files : AboutFiles request) :
    Ensures (At volume (layer.Shows disk events)) (Volume.serve request)
      (fun value site => ∃ plan, planned volume request = .ok plan
        ∧ CarriedOut layer disk events plan value site)
      (fun _ => At volume (layer.Has (geometryOf disk))) := by
  intro site ⟨same, shows⟩
  rcases run_serve_eq_or files site with run | ⟨⟨trap, stops⟩, _⟩
  · rw [run, same]
    -- Planning asks no device, so without a plan nothing has happened.
    cases made : planned volume request with
    | error fault => exact ⟨same, has_of_shows shows⟩
    | ok plan =>
      obtain ⟨mounted, known, follows⟩ := follows_planned made
      have mountedSound := sound mounted known
      have geometry := (follows mountedSound.isRoot).geometry.trans
        mountedSound.geometry
      exact (ensures_perform suitable plan geometry).imp
        (fun _ start => start) (fun _ _ done => ⟨plan, rfl, done⟩)
        (fun _ _ known => known) site ⟨same, shows⟩
  · rw [stops]
    trivial

/-! ### Any order of requests -/

theorem behind_of_at {site : Site Volume σ}
    (sound : ∀ mounted, volume.mounted = some mounted →
      Sound geometry mounted)
    (known : At volume (layer.Has geometry) site) :
    Behind layer geometry site := by
  obtain ⟨same, has⟩ := known
  subst same
  exact ⟨has, sound⟩

theorem sound_of_none (mounted : Mounted)
    (found : (⟨none⟩ : Volume).mounted = some mounted) :
    Sound geometry mounted := by
  cases found

theorem Sound.of_some {mounted other : Mounted}
    (sound : Sound geometry mounted) (same : some mounted = some other) :
    Sound geometry other :=
  Option.some.inj same ▸ sound

/-- What is mounted after a plan has been carried out is as sound as what
was mounted before. -/
theorem behind_of_carriedOut {site : Site Volume σ} {plan : Plan α}
    {value : α} (sound : Sound (geometryOf disk) plan.next)
    (carried : CarriedOut layer disk events plan value site) :
    Behind layer (geometryOf disk) site := by
  obtain ⟨_, known⟩ := carried
  refine behind_of_at (fun _ same => sound.of_some same) ⟨known.1, ?_⟩
  have inside := known.2
  by_cases stores : plan.stores = true
  · rw [if_pos stores] at inside
    have has := has_of_shows inside.2
    rw [geometryOf_stored] at has
    exact has
  · rw [if_neg stores] at inside
    exact has_of_shows inside

/-- Every request keeps what is mounted sound and the layer honest. -/
theorem keeps_serve (suitable : Suitable geometry) (request : Request α) :
    Keeps (Behind layer geometry) (Volume.serve request) := by
  intro site ⟨⟨honest, same⟩, sound⟩
  subst same
  have start : At site.driver (layer.Shows (layer.disk site.medium.device)
      site.medium.events) site := ⟨rfl, honest, rfl, rfl⟩
  have refused (fault : Fault) (after : Site Volume σ)
      (known : At site.driver (layer.Has
        (geometryOf (layer.disk site.medium.device))) after) :
      Behind layer (geometryOf (layer.disk site.medium.device)) after :=
    behind_of_at sound known
  -- A request about files mounts what was planned, the three others what
  -- they find or make.
  by_cases files : AboutFiles request
  · refine (ensures_files suitable sound files).imp (fun _ start => start)
      ?_ refused site start
    intro value after ⟨plan, made, carried⟩
    obtain ⟨mounted, known, follows⟩ := follows_planned made
    have before := sound mounted known
    have follows := follows before.isRoot
    exact behind_of_carriedOut
      ⟨follows.isRoot, follows.geometry.trans before.geometry⟩ carried
  cases request with
  | mount =>
    refine (ensures_mount suitable).imp (fun _ start => start) ?_ refused
      site start
    intro _ after ⟨mounted, mountedSound, known⟩
    exact behind_of_at (fun _ same => mountedSound.of_some same) known
  | unmount =>
    refine ensures_unmount.imp (fun _ start => start) ?_ ?_ site
      ⟨rfl, honest, rfl⟩
    · intro _ after known
      exact behind_of_at sound_of_none known
    · intro fault after known
      cases known with
      | inl kept => exact refused fault after kept
      | inr gone => exact behind_of_at sound_of_none gone
  | format =>
    refine (ensures_format suitable).imp (fun _ start => start) ?_ refused
      site start
    intro _ after ⟨driver, shows⟩
    have has := has_of_shows shows
    rw [geometryOf_stored] at has
    refine behind_of_at ?_ ⟨driver, has⟩
    intro next isNext
    obtain ⟨mounted, _, made⟩ := Option.map_eq_some_iff.mp isNext
    rw [← made]
    exact ⟨isRoot_empty, rfl⟩
  | _ => exact absurd True.intro files

/-- The sites that a new volume gets to. Between two requests the device
may do as it likes, as long as the disk behind it stays as it is. -/
inductive Used (layer : Layer σ) (geometry : Geometry) :
    Site Volume σ → Prop
  | fresh {medium : Medium σ} (has : layer.Has geometry medium) :
    Used layer geometry ⟨.fresh, medium⟩
  | between {site : Site Volume σ} {medium : Medium σ}
    (used : Used layer geometry site) (honest : layer.honest medium.device)
    (same : layer.disk medium.device = layer.disk site.medium.device) :
    Used layer geometry { site with medium }
  | request {β : Type} {site after : Site Volume σ} (request : Request β)
    (used : Used layer geometry site)
    (left : ((Volume.serve request).run site).after? = some after) :
    Used layer geometry after

theorem Used.behind (suitable : Suitable geometry) {site : Site Volume σ}
    (used : Used layer geometry site) : Behind layer geometry site := by
  induction used with
  | fresh has => exact ⟨has, sound_of_none⟩
  | between used honest same ih =>
    exact ⟨⟨honest, (congrArg geometryOf same).trans ih.has.2⟩, ih.sound⟩
  | request request used left ih =>
    exact (keeps_serve suitable request).of_after? ih left

end

end MountSpace.Proofs.Volumes
