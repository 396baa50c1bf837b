import MountSpace.Proofs.Volumes.Requests

/-!
# `MountSpace.Proofs.Volumes.Persistence`: what a new volume finds

A tree that has been stored is there to stay: a volume that is mounted
from the same disk later has the same tree.

* `Restores`: a new volume can be mounted from a disk, and then has a
  given tree. `restores_iff` says that the disk has to hold that tree.
* `persistence`: behind a layer that can fail, whatever has been tried
  before, a format that is done leaves a disk that restores an empty
  tree, and a request that is done and has stored a tree leaves one that
  restores the tree in memory. On a disk that does not fail that holds
  after every request.
-/

set_option autoImplicit false

namespace MountSpace.Proofs.Volumes

open Effects Storage Trees

/-! ### A disk that does not fail -/

/-- A mount on a device that starts and tells its geometry. -/
theorem run_mount_of_told {σ : Type} [BlockDevice σ] {medium : Medium σ}
    {geometry : Geometry} (volume : Volume)
    (started : (Medium.control .start).run medium = .done () medium)
    (told : Medium.geometry.run medium = .done geometry medium) :
    Volume.mount.run ⟨volume, medium⟩ =
      match (Tree.load geometry).run medium with
      | .done root ⟨device, events⟩ =>
        .done () ⟨⟨some ⟨root, [], 0, geometry⟩⟩, ⟨device,
          .volumeMounted geometry.blockCount geometry.blockSize :: events⟩⟩
      | .refused fault ⟨device, events⟩ =>
        .refused fault ⟨volume, ⟨device, .volumeMountFailed fault :: events⟩⟩
      | .stopped trap => .stopped trap := by
  simp only [Volume.mount, Action.run_bind, Site.run_onMedium, started,
    told, Action.run_onRefusal]
  cases (Tree.load geometry).run medium <;> rfl

/-- A format of a device that starts, tells its geometry and takes an empty
tree. -/
theorem run_format_of_told {σ : Type} [BlockDevice σ]
    {medium after : Medium σ} {geometry : Geometry} (volume : Volume)
    (suitable : Suitable geometry)
    (started : (Medium.control .start).run medium = .done () medium)
    (told : Medium.geometry.run medium = .done geometry medium)
    (stores : (Tree.empty.store geometry).run medium = .done () after) :
    Volume.format.run ⟨volume, medium⟩
      = .done () ⟨⟨volume.mounted.map fun mounted =>
            { mounted with root := Tree.empty, handles := [], geometry }⟩,
          ⟨after.device,
            .volumeFormatted geometry.blockCount :: after.events⟩⟩ := by
  have two := suitable.two
  have header := suitable.header
  have large : ¬ (geometry.blockCount < 2
      ∨ geometry.blockSize < Superblock.length) := by omega
  simp only [Volume.format, Action.run_bind, Site.run_onMedium, started,
    told, if_neg large, Action.run_pure, stores]
  rfl

section

variable {disk : RamDisk} (volume : Volume) (events : List Event)

/-- To mount is to find the tree on the disk. -/
theorem run_mount (legible : Legible (geometryOf disk)) :
    Volume.mount.run ⟨volume, ⟨disk, events⟩⟩ =
      match treeOf disk with
      | .ok root => .done () ⟨⟨some ⟨root, [], 0, geometryOf disk⟩⟩, ⟨disk,
          .volumeMounted (geometryOf disk).blockCount
            (geometryOf disk).blockSize :: events⟩⟩
      | .error fault =>
        .refused fault ⟨volume, ⟨disk, .volumeMountFailed fault :: events⟩⟩ := by
  have told := run_geometry events legible.blockSize_pos legible.size
    legible.count
  have loaded := run_load events legible
  rw [run_mount_of_told volume (run_idle events (Or.inl rfl)) told, loaded]
  cases treeOf disk <;> rfl

theorem run_unmount :
    Volume.unmount.run ⟨volume, ⟨disk, events⟩⟩ =
      match volume.mounted with
      | some _ => .done () ⟨⟨none⟩, ⟨disk, events⟩⟩
      | none => .refused .noDevice ⟨volume, ⟨disk, events⟩⟩ := by
  rw [Volume.unmount, Action.run_bind, run_getMounted, current]
  cases volume.mounted <;> rfl

theorem run_format (suitable : Suitable (geometryOf disk)) :
    Volume.format.run ⟨volume, ⟨disk, events⟩⟩
      = .done () ⟨⟨volume.mounted.map fun mounted =>
            { mounted with
              root := Tree.empty
              handles := []
              geometry := geometryOf disk }⟩,
          ⟨stored disk Tree.empty,
            .volumeFormatted (geometryOf disk).blockCount
              :: .imageCommitted Tree.empty.encode.length :: events⟩⟩ := by
  have legible := suitable.readable.legible
  have told := run_geometry events legible.blockSize_pos legible.size
    legible.count
  have stores := run_store events suitable Tree.empty
  rw [if_neg (Nat.not_lt.mpr (length_encode_empty_le suitable))] at stores
  exact run_format_of_told volume suitable
    (run_idle events (Or.inl rfl)) told stores

/-- To carry a plan out is to put its tree on the disk, if it is to be
stored and fits. -/
theorem run_perform_of_same {α : Type} (plan : Plan α)
    (suitable : Suitable (geometryOf disk))
    (same : plan.next.geometry = geometryOf disk) :
    (Volume.perform plan).run ⟨volume, ⟨disk, events⟩⟩ =
      if plan.stores then
        if (geometryOf disk).capacity < plan.next.root.encode.length then
          .refused .noSpace ⟨volume, ⟨disk,
            .imageTooLarge plan.next.root.encode.length
              (geometryOf disk).capacity :: events⟩⟩
        else .done plan.value ⟨⟨some plan.next⟩,
          ⟨stored disk plan.next.root,
            .imageCommitted plan.next.root.encode.length :: events⟩⟩
      else .done plan.value ⟨⟨some plan.next⟩, ⟨disk, events⟩⟩ := by
  have stores := run_store events suitable plan.next.root
  simp only [run_perform, same, stores]
  by_cases tooLong : (geometryOf disk).capacity
      < plan.next.root.encode.length
  · simp only [if_pos tooLong]
  · simp only [if_neg tooLong]

end

/-! ### New volumes -/

/-- A new volume can be mounted from the disk, leaves it alone, and then
has this tree. -/
def Restores (disk : RamDisk) (root : Tree) : Prop :=
  ∀ events, ∃ mounted after,
    Volume.mount.run ⟨.fresh, ⟨disk, events⟩⟩
        = .done () ⟨⟨some mounted⟩, ⟨disk, after⟩⟩
      ∧ mounted.root = root

theorem restores_iff {disk : RamDisk}
    (readable : Readable (geometryOf disk)) {root : Tree} :
    Restores disk root ↔ treeOf disk = .ok root := by
  have run (events : List Event) := run_mount .fresh events readable.legible
  constructor
  · intro restores
    obtain ⟨mounted, after, done, same⟩ := restores []
    rw [run []] at done
    cases found : treeOf disk with
    | error fault =>
      rw [found] at done
      nomatch done
    | ok tree =>
      rw [found] at done
      cases done
      exact congrArg _ same
  · intro found events
    have done := run events
    rw [found] at done
    exact ⟨⟨root, [], 0, geometryOf disk⟩, _, done, rfl⟩

/-- What has been stored is found by a new volume. -/
theorem restores_stored {disk : RamDisk} {root : Tree}
    (suitable : Suitable (geometryOf disk)) (isRoot : IsRoot root)
    (fits : root.encode.length ≤ (geometryOf disk).capacity) :
    Restores (stored disk root) root := by
  have readable : Readable (geometryOf (stored disk root)) := by
    rw [geometryOf_stored]
    exact suitable.readable
  have short := Nat.lt_of_le_of_lt fits suitable.small
  exact (restores_iff readable).mpr
    (treeOf_stored suitable.readable isRoot fits short)

/-- What is mounted is what a new volume finds on the disk. -/
def Agrees (site : Site Volume RamDisk) : Prop :=
  ∀ mounted, site.driver.mounted = some mounted →
    Restores site.medium.device mounted.root

section

variable {geometry : Geometry} {site : Site Volume RamDisk}

/-- A plan that is carried out, or does not fit, leaves a volume that
agrees with the disk. -/
theorem agrees_perform {volume : Volume} {disk : RamDisk}
    {events : List Event} {α : Type} {plan : Plan α} {mounted : Mounted}
    (suitable : Suitable (geometryOf disk))
    (agrees : Agrees ⟨volume, ⟨disk, events⟩⟩)
    (known : volume.mounted = some mounted)
    (sound : Sound (geometryOf disk) mounted)
    (follows : Follows mounted plan) :
    ∃ after, ((Volume.perform plan).run ⟨volume, ⟨disk, events⟩⟩).after?
        = some after ∧ Agrees after := by
  have carried := run_perform_of_same volume events plan suitable
    (follows.geometry.trans sound.geometry)
  rw [carried]
  by_cases stores : plan.stores = true
  · rw [if_pos stores]
    by_cases tooLong : (geometryOf disk).capacity
        < plan.next.root.encode.length
    -- Nothing has been written, and the old tree stays.
    · rw [if_pos tooLong]
      exact ⟨_, rfl, agrees⟩
    · rw [if_neg tooLong]
      refine ⟨_, rfl, ?_⟩
      intro next isNext
      cases isNext
      exact restores_stored suitable follows.isRoot (Nat.not_lt.mp tooLong)
  · rw [if_neg stores]
    refine ⟨_, rfl, ?_⟩
    intro next isNext
    cases isNext
    -- The disk is as it was, and so is the tree in memory.
    have kept := follows.kept (Bool.not_eq_true _ ▸ stores)
    rw [kept]
    exact agrees mounted known

/-- On a disk that does not fail no request about files stops, and what
is mounted keeps agreeing with the disk. -/
theorem agrees_files (suitable : Suitable geometry)
    (behind : Behind Layer.direct geometry site) (agrees : Agrees site)
    {α : Type} {request : Request α} (files : AboutFiles request) :
    ∃ after, ((Volume.serve request).run site).after? = some after
      ∧ Agrees after := by
  obtain ⟨volume, disk, events⟩ := site
  have same : geometryOf disk = geometry := behind.has.2
  subst same
  rcases run_serve_eq_or files ⟨volume, ⟨disk, events⟩⟩ with
    run | ⟨_, mounted, known, large, _⟩
  · rw [run]
    cases made : planned volume request with
    | error fault => exact ⟨_, rfl, agrees⟩
    | ok plan =>
      obtain ⟨mounted, known, follows⟩ := follows_planned made
      have sound := behind.sound mounted known
      exact agrees_perform suitable agrees known sound
        (follows sound.isRoot)
  · -- No plan is made for more bytes than the disk has, and it has fewer
    -- than would make a write stop.
    have sound := behind.sound mounted known
    have small := suitable.small
    have limits : fieldLimit < sizeLimit := by decide
    rw [sound.geometry] at large
    omega

theorem agrees_serve (suitable : Suitable geometry)
    (behind : Behind Layer.direct geometry site) (agrees : Agrees site)
    {α : Type} (request : Request α) :
    ∃ after, ((Volume.serve request).run site).after? = some after
      ∧ Agrees after := by
  by_cases files : AboutFiles request
  · exact agrees_files suitable behind agrees files
  obtain ⟨volume, disk, events⟩ := site
  have same : geometryOf disk = geometry := behind.has.2
  subst same
  cases request with
  -- A mount finds what every other mount finds.
  | mount =>
    rw [Volume.serve, run_mount volume events suitable.readable.legible]
    cases found : treeOf disk with
    | error fault => exact ⟨_, rfl, agrees⟩
    | ok root =>
      refine ⟨_, rfl, ?_⟩
      intro next isNext
      cases isNext
      exact (restores_iff suitable.readable).mpr found
  | unmount =>
    rw [Volume.serve, run_unmount]
    cases found : volume.mounted with
    | none => exact ⟨_, rfl, agrees⟩
    | some mounted =>
      refine ⟨_, rfl, ?_⟩
      intro next isNext
      cases isNext
  | format =>
    rw [Volume.serve, run_format volume events suitable]
    refine ⟨_, rfl, ?_⟩
    intro next isNext
    obtain ⟨mounted, _, made⟩ := Option.map_eq_some_iff.mp isNext
    rw [← made]
    exact restores_stored suitable isRoot_empty
      (length_encode_empty_le suitable)
  | _ => exact absurd True.intro files

end

/-! ### Persistence -/

/-- In between it has been noted that a tree was stored. -/
def Commits {σ : Type} (before after : Medium σ) : Prop :=
  ∃ noted length, after.events = noted ++ before.events
    ∧ Event.imageCommitted length ∈ noted

theorem not_commits_of_eq {σ : Type} {before after : Medium σ}
    (same : after.events = before.events) : ¬ Commits before after := by
  intro ⟨noted, length, added, member⟩
  have none : noted = [] := by
    rw [same] at added
    exact List.self_eq_append_left.mp added
  rw [none] at member
  nomatch member

section

variable {σ : Type} [BlockDevice σ] {layer : Layer σ} {geometry : Geometry}
  {site after : Site Volume σ}

/-- A format that is done leaves an empty tree on the disk and in
memory. -/
theorem restores_of_format (suitable : Suitable geometry)
    (used : Used layer geometry site)
    (run : Volume.format.run site = .done () after) :
    Restores (layer.disk after.medium.device) Tree.empty
      ∧ ∀ mounted, after.driver.mounted = some mounted →
        mounted.root = Tree.empty := by
  obtain ⟨⟨honest, same⟩, _⟩ := used.behind suitable
  subst same
  have meets := ensures_format suitable site ⟨rfl, honest, rfl, rfl⟩
  rw [run] at meets
  obtain ⟨driver, shows⟩ := meets
  constructor
  · rw [shows.disk]
    exact restores_stored suitable isRoot_empty
      (length_encode_empty_le suitable)
  · intro mounted found
    rw [driver] at found
    obtain ⟨_, _, made⟩ := Option.map_eq_some_iff.mp found
    rw [← made]

/-- A request that is done and has stored a tree leaves the tree in memory
on the disk. One that has stored none leaves both as they were. -/
theorem restores_of_files (suitable : Suitable geometry)
    (used : Used layer geometry site) {α : Type} {request : Request α}
    (files : AboutFiles request) {value : α}
    (run : (Volume.serve request).run site = .done value after) :
    ∃ mounted next, site.driver.mounted = some mounted
      ∧ after.driver.mounted = some next
      ∧ (Commits site.medium after.medium →
        Restores (layer.disk after.medium.device) next.root)
      ∧ (¬ Commits site.medium after.medium →
        next.root = mounted.root
          ∧ layer.disk after.medium.device
            = layer.disk site.medium.device) := by
  obtain ⟨⟨honest, same⟩, sound⟩ := used.behind suitable
  subst same
  have meets := ensures_files suitable sound files site
    ⟨rfl, honest, rfl, rfl⟩
  rw [run] at meets
  obtain ⟨plan, made, _, driver, inside⟩ := meets
  obtain ⟨mounted, known, follows⟩ := follows_planned made
  have follows := follows (sound mounted known).isRoot
  refine ⟨mounted, plan.next, known, congrArg _ driver, ?_⟩
  by_cases stores : plan.stores = true
  · rw [if_pos stores] at inside
    obtain ⟨fits, shows⟩ := inside
    -- The commit is the one thing that is noted.
    have commits : Commits site.medium after.medium :=
      ⟨[_], _, shows.events, List.mem_singleton_self _⟩
    rw [shows.disk]
    exact ⟨fun _ => restores_stored suitable follows.isRoot fits,
      fun none => absurd commits none⟩
  · rw [if_neg stores] at inside
    have none := not_commits_of_eq inside.events
    have kept := follows.kept (Bool.not_eq_true _ ▸ stores)
    exact ⟨fun commits => absurd commits none,
      fun _ => ⟨kept, inside.disk⟩⟩

end

/-- On a disk that does not fail, whatever is mounted agrees with the
disk. -/
theorem Used.agrees {geometry : Geometry} (suitable : Suitable geometry)
    {site : Site Volume RamDisk} (used : Used Layer.direct geometry site) :
    Agrees site := by
  induction used with
  | fresh has =>
    intro mounted found
    cases found
  | @between site medium used honest same ih =>
    intro mounted found
    have same : medium.device = site.medium.device := same
    rw [same]
    exact ih mounted found
  | request request used left ih =>
    obtain ⟨after, ends, agrees⟩ :=
      agrees_serve suitable (used.behind suitable) ih request
    -- The site that is left is the one that agrees.
    cases left.symm.trans ends
    exact agrees

/-- What has been stored is what a new volume finds, whatever failed
before and whatever was on the disk: after every format that is done, and
after every request that is done and has stored a tree. On a disk that
does not fail, whatever is mounted is what a new volume finds, and every
request is answered. -/
theorem persistence {σ : Type} [BlockDevice σ] (layer : Layer σ)
    {geometry : Geometry} (suitable : Suitable geometry) :
    (∀ site after, Used layer geometry site →
      Volume.format.run site = .done () after →
      Restores (layer.disk after.medium.device) Tree.empty
        ∧ ∀ mounted, after.driver.mounted = some mounted →
          mounted.root = Tree.empty)
    ∧ (∀ site after, Used layer geometry site →
      ∀ {α : Type} (request : Request α) value, AboutFiles request →
      (Volume.serve request).run site = .done value after →
      ∃ mounted next, site.driver.mounted = some mounted
        ∧ after.driver.mounted = some next
        ∧ (Commits site.medium after.medium →
          Restores (layer.disk after.medium.device) next.root)
        ∧ (¬ Commits site.medium after.medium →
          next.root = mounted.root
            ∧ layer.disk after.medium.device
              = layer.disk site.medium.device))
    ∧ ∀ site, Used Layer.direct geometry site →
      (∀ mounted, site.driver.mounted = some mounted →
        Restores site.medium.device mounted.root)
      ∧ ∀ {α : Type} (request : Request α), ∃ after,
        ((Volume.serve request).run site).after? = some after := by
  refine ⟨?_, ?_, ?_⟩
  · intro site after used run
    exact restores_of_format suitable used run
  · intro site after used α request value files run
    exact restores_of_files suitable used files run
  · intro site used
    have agrees := used.agrees suitable
    have behind := used.behind suitable
    constructor
    · exact agrees
    · intro α request
      obtain ⟨after, ends, _⟩ := agrees_serve suitable behind agrees request
      exact ⟨after, ends⟩

/-- What a request leaves, unless it stops. -/
def asked {σ α : Type} [BlockDevice σ] (request : Request α)
    (site : Site Volume σ) : Option (Site Volume σ) :=
  ((Volume.serve request).run site).after?

/-- The site with these calls to fail from now on. -/
def failing (faults : Probe.Faults) (site : Site Volume (Probe RamDisk)) :
    Site Volume (Probe RamDisk) :=
  { site with
    medium := { site.medium with
      device := { site.medium.device with faults } } }

/-- The tree in memory. -/
def rootOf {σ : Type} (site : Site Volume σ) : Option Tree :=
  site.driver.mounted.map Mounted.root

/-- A disk of three blocks is formatted and mounted. Then the superblock
is erased and cannot be written. -/
def session : Option (Site Volume (Probe RamDisk)) := do
  let site ← asked .format ⟨.fresh, ⟨⟨⟨54, 18, ∅⟩, {}, []⟩, []⟩⟩
  let site ← asked .mount site
  let site ← asked (.makeDirectory "lost") (failing { writes := [0] } site)
  return failing {} site

theorem used_session {site : Site Volume (Probe RamDisk)}
    (left : session = some site) :
    Used (Layer.probe Layer.direct) ⟨18, 3⟩ site := by
  obtain ⟨formatted, left₁, left⟩ := Option.bind_eq_some_iff.mp left
  obtain ⟨mounted, left₂, left⟩ := Option.bind_eq_some_iff.mp left
  obtain ⟨broken, left₃, left⟩ := Option.bind_eq_some_iff.mp left
  cases left
  have only (faults : Probe.Faults) (none : faults.answers = []) :
      OnlyFails faults := by
    intro code answer set
    rw [none] at set
    nomatch set
  have used : Used (Layer.probe Layer.direct) ⟨18, 3⟩
      ⟨.fresh, ⟨⟨⟨54, 18, ∅⟩, {}, []⟩, []⟩⟩ :=
    .fresh ⟨⟨trivial, only _ rfl⟩, by decide⟩
  have used := (used.request .format left₁).request .mount left₂
  have used : Used (Layer.probe Layer.direct) ⟨18, 3⟩
      (failing { writes := [0] } mounted) :=
    used.between ⟨trivial, only _ rfl⟩ rfl
  have used := used.request (.makeDirectory "lost") left₃
  exact used.between ⟨trivial, only _ rfl⟩ rfl

/-- The second directory is made, and a new volume finds it alone. -/
theorem persistence_sample :
    Suitable ⟨18, 3⟩ ∧ ∃ site after : Site Volume (Probe RamDisk),
      Used (Layer.probe Layer.direct) ⟨18, 3⟩ site
      ∧ (Volume.serve (.makeDirectory "kept")).run site = .done () after
      ∧ Restores after.medium.device.device
        (.directory [("kept", Tree.empty)]) := by
  have suitable : Suitable ⟨18, 3⟩ := ⟨by decide, by decide, by decide⟩
  have shape : (session.map fun site =>
      (rootOf site, match (Volume.serve (.makeDirectory "kept")).run site with
        | .done _ after => rootOf after
        | _ => none))
      = some (some Tree.empty, some (.directory [("kept", Tree.empty)])) := by
    decide +kernel
  obtain ⟨site, left, roots⟩ := Option.map_eq_some_iff.mp shape
  obtain ⟨before, asks⟩ := Prod.mk.inj roots
  have used := used_session left
  cases run : (Volume.serve (.makeDirectory "kept")).run site with
  | refused fault after =>
    rw [run] at asks
    nomatch asks
  | stopped trap =>
    rw [run] at asks
    nomatch asks
  | done value after =>
    simp only [run] at asks
    obtain ⟨mounted, next, known, now, stored, kept⟩ :=
      (persistence (Layer.probe Layer.direct) suitable).2.1 site after used
        (.makeDirectory "kept") value trivial run
    -- The tree in memory is another one, so it has been stored.
    have roots : some mounted.root = some Tree.empty
        ∧ some next.root = some (.directory [("kept", Tree.empty)]) := by
      rw [rootOf, known] at before
      rw [rootOf, now] at asks
      exact ⟨before, asks⟩
    obtain ⟨old, new⟩ := roots
    have different : next.root ≠ mounted.root := by
      rw [Option.some.inj old, Option.some.inj new]
      decide
    have commits : Commits site.medium after.medium :=
      Classical.byContradiction fun none => different (kept none).1
    have restores := stored commits
    rw [Option.some.inj new] at restores
    exact ⟨suitable, site, after, used, run, restores⟩

end MountSpace.Proofs.Volumes
