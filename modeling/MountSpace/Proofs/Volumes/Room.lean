import MountSpace.Proofs.Volumes.Mounts
import MountSpace.Proofs.Volumes.Products

/-!
# `MountSpace.Proofs.Volumes.Room`: what there is room for

A disk in memory does not fail. If the blocks behind its first one are few
enough for a superblock to tell of them, it is only told by the length of
an image whether a tree is stored.

* `Resides`: the sites that any order of requests leads to on disks of one
  geometry, whoever has written them.
* `Resides.seated`: what is known of such a site when a volume is mounted
  (`Seated`). On disks on which no volume can be none is mounted.
* `noSpace_iff_too_long`: a request that passes its checks is refused for
  want of room if the image of the tree that it makes is longer than the
  blocks behind the first one, and is done otherwise.
-/

set_option autoImplicit false

namespace MountSpace.Proofs.Volumes

open Effects Storage Trees

/-! ### Disks of one geometry -/

/-- The sites that any order of requests leads to, each of them done or
refused, on disks of one geometry. Between two requests anything may come
to be on the disk. -/
inductive Resides (geometry : Geometry) : Site Volume RamDisk → Prop where
  | fresh {disk : RamDisk} (same : geometryOf disk = geometry)
    (events : List Event) : Resides geometry ⟨.fresh, ⟨disk, events⟩⟩
  | between {site : Site Volume RamDisk} {disk : RamDisk}
    (resides : Resides geometry site) (same : geometryOf disk = geometry)
    (events : List Event) :
    Resides geometry { site with medium := ⟨disk, events⟩ }
  | request {site after : Site Volume RamDisk} {α : Type}
    (request : Request α) (resides : Resides geometry site)
    (left : ((Volume.serve request).run site).after? = some after) :
    Resides geometry after

section

variable {geometry : Geometry} {site : Site Volume RamDisk}
  {mounted : Mounted}

theorem Resides.operated (resides : Resides geometry site) :
    Operated site := by
  induction resides with
  | fresh same events => exact .fresh _
  | between _ same events ih => exact .between _ ih
  | request request _ left ih => exact .request request ih left

/-- On a disk that can hold a volume, what is mounted is of its geometry. -/
theorem Resides.behind (suitable : Suitable geometry)
    (resides : Resides geometry site) : Behind .direct geometry site := by
  induction resides with
  | fresh same events => exact ⟨⟨trivial, same⟩, sound_of_none⟩
  | between _ same events ih => exact ⟨⟨trivial, same⟩, ih.sound⟩
  | request request _ left ih =>
    exact (keeps_serve suitable request).of_after? ih left

/-! ### Disks on which no volume can be -/

/-- A device in these states starts, and tells no geometry or one that is too
small for a volume. -/
structure Narrow {σ : Type} [BlockDevice σ] (inside : Medium σ → Prop) :
    Prop where
  starts {medium : Medium σ} : inside medium →
    (Medium.control .start).run medium = .done () medium
  tells {medium : Medium σ} : inside medium →
    (∃ fault, Medium.geometry.run medium = .refused fault medium)
      ∨ ∃ geometry : Geometry, (geometry.blockCount < 2
          ∨ geometry.blockSize < Superblock.length)
        ∧ Medium.geometry.run medium = .done geometry medium
  reads (block length : Nat) :
    Keeps inside (Medium.ask (BlockDevice.read block 0 length))
  notes (event : Event) : Keeps inside (Medium.note event)

section

variable {σ α : Type} [BlockDevice σ] {inside : Medium σ → Prop}
  (narrow : Narrow inside)

include narrow

/-- Such a device is not mounted. -/
theorem keeps_mount_of_narrow :
    Keeps (At ⟨none⟩ inside) Volume.mount := by
  rintro ⟨_, medium⟩ ⟨rfl, known⟩
  have started := narrow.starts known
  rcases narrow.tells known with ⟨fault, untold⟩ | ⟨geometry, small, told⟩
  · rw [run_mount_of_untold _ started untold]
    exact ⟨rfl, known⟩
  · have loaded := (ensures_load narrow.reads geometry).apply known
    rw [run_mount_of_told _ started told]
    cases run : (Tree.load geometry).run medium with
    | done root after =>
      -- Only a tree that fits is loaded, and here none does.
      rw [run] at loaded
      have two := loaded.1.readable.two
      have header := loaded.1.readable.header
      omega
    | refused fault after =>
      rw [run] at loaded
      exact ⟨rfl, narrow.notes (.volumeMountFailed fault) after loaded⟩
    | stopped trap => trivial

/-- Nor is it formatted. -/
theorem keeps_format_of_narrow :
    Keeps (At ⟨none⟩ inside) Volume.format := by
  rintro ⟨_, medium⟩ ⟨rfl, known⟩
  have started := narrow.starts known
  rcases narrow.tells known with ⟨fault, untold⟩ | ⟨geometry, small, told⟩
  · simp only [Volume.format, Action.run_bind, Site.run_onMedium, started,
      untold]
    exact ⟨rfl, known⟩
  · simp only [Volume.format, Action.run_bind, Site.run_onMedium, started,
      told, if_pos small, Action.run_refuse]
    exact ⟨rfl, known⟩

/-- So nothing is ever mounted. -/
theorem keeps_serve_of_narrow (request : Request α) :
    Keeps (At ⟨none⟩ inside) (Volume.serve request) := by
  by_cases files : AboutFiles request
  · rintro site ⟨driver, known⟩
    rcases run_serve_eq_or files site with run | ⟨_, mounted, some, _⟩
    · rw [run, driver]
      -- There is no plan without a tree.
      cases made : planned ⟨none⟩ request with
      | error fault => exact ⟨driver, known⟩
      | ok plan =>
        obtain ⟨_, some, _⟩ := follows_planned made
        cases some
    · rw [driver] at some
      cases some
  cases request with
  | mount => exact keeps_mount_of_narrow narrow
  | format => exact keeps_format_of_narrow narrow
  | unmount =>
    rintro ⟨_, medium⟩ ⟨rfl, known⟩
    exact ⟨rfl, known⟩
  | _ => exact absurd trivial files

end

/-- Few bytes are no more blocks. -/
theorem few_of_small {disk : RamDisk}
    (small : (geometryOf disk).capacity < fieldLimit) :
    disk.size / disk.blockSize < sizeLimit := by
  by_cases none : disk.blockSize = 0
  · rw [none, Nat.div_zero]
    decide
  · have blocks := Nat.le_mul_of_pos_right (disk.size / disk.blockSize - 1)
      (Nat.pos_of_ne_zero none)
    have small : (disk.size / disk.blockSize - 1) * disk.blockSize
        < fieldLimit := small
    simp only [fieldLimit, sizeLimit] at *
    omega

/-- A disk that is not suitable for a volume is too small for one. -/
theorem narrow_disk (word : geometry.blockSize < wordLimit)
    (small : geometry.capacity < fieldLimit)
    (unsuited : ¬ Suitable geometry) :
    Narrow (Layer.direct.Has geometry) where
  starts := by
    rintro ⟨disk, events⟩ _
    exact run_idle events (Or.inl rfl)
  tells := by
    rintro ⟨disk, events⟩ ⟨_, same⟩
    have same : geometryOf disk = geometry := same
    subst same
    -- Of what makes a disk suitable only the capacity is given.
    have tooSmall : (geometryOf disk).blockCount < 2
        ∨ (geometryOf disk).blockSize < Superblock.length := by
      refine Classical.byContradiction fun large => unsuited ?_
      exact ⟨by omega, by omega, small⟩
    cases run_geometry_eq_or events word (few_of_small small) with
    | inl told => exact .inr ⟨_, tooSmall, told⟩
    | inr untold => exact .inl ⟨_, untold⟩
  reads := keeps_read
  notes := keeps_note

/-- So no order of requests mounts anything there. -/
theorem Resides.nothing_mounted (word : geometry.blockSize < wordLimit)
    (small : geometry.capacity < fieldLimit)
    (unsuited : ¬ Suitable geometry) (resides : Resides geometry site) :
    At ⟨none⟩ (Layer.direct.Has geometry) site := by
  have narrow := narrow_disk word small unsuited
  induction resides with
  | fresh same events => exact ⟨rfl, trivial, same⟩
  | between _ same events ih => exact ⟨ih.1, trivial, same⟩
  | request request _ left ih =>
    exact (keeps_serve_of_narrow narrow request).of_after? ih left

/-- So there is room for a volume wherever one is mounted. -/
theorem Resides.suitable (word : geometry.blockSize < wordLimit)
    (small : geometry.capacity < fieldLimit)
    (resides : Resides geometry site)
    (known : site.driver.mounted = some mounted) : Suitable geometry := by
  refine Classical.byContradiction fun unsuited => ?_
  rw [(resides.nothing_mounted word small unsuited).1] at known
  cases known

/-! ### Requests on a disk that can hold a volume -/

/-- What is known of a volume that is mounted from a disk of this
geometry. -/
structure Seated (geometry : Geometry) (site : Site Volume RamDisk)
    (mounted : Mounted) : Prop where
  suitable : Suitable geometry
  disk : geometryOf site.medium.device = geometry
  driver : site.driver = ⟨some mounted⟩
  same : mounted.geometry = geometry
  isRoot : IsRoot mounted.root
  room : mounted.root.encode.length ≤ geometry.capacity

theorem Resides.seated (word : geometry.blockSize < wordLimit)
    (small : geometry.capacity < fieldLimit)
    (resides : Resides geometry site)
    (known : site.driver.mounted = some mounted) :
    Seated geometry site mounted := by
  have suitable := resides.suitable word small known
  have behind := resides.behind suitable
  have same := (behind.sound mounted known).geometry
  have fits := resides.operated.contained mounted known
  exact ⟨suitable, behind.has.2, congrArg Volume.mk known, same, fits.isRoot,
    same ▸ fits.room⟩

namespace Seated

variable {α : Type} {request : Request α} {next : Tree}
  (seated : Seated geometry site mounted)

include seated

/-- The capacity is less than the length of the longest byte string, so no
request stops. -/
theorem run_serve (files : AboutFiles request) :
    (Volume.serve request).run site
      = (Action.ofExcept (planned ⟨some mounted⟩ request)
        >>= Volume.perform).run site := by
  rw [← seated.driver]
  rcases run_serve_eq_or files site with run | ⟨_, other, known, large, _⟩
  · exact run
  · rw [seated.driver] at known
    cases known
    rw [seated.same] at large
    have small := seated.suitable.small
    simp only [fieldLimit, sizeLimit] at *
    omega

theorem run_serve_of_error (files : AboutFiles request) {fault : Fault}
    (failed : planned ⟨some mounted⟩ request = .error fault) :
    (Volume.serve request).run site = .refused fault site := by
  rw [seated.run_serve files, failed]
  rfl

/-- A plan is carried out, unless its tree is stored and too long. -/
theorem run_serve_of_ok (files : AboutFiles request) {plan : Plan α}
    (made : planned ⟨some mounted⟩ request = .ok plan) :
    (plan.stores = true → geometry.capacity < plan.next.root.encode.length →
        ∃ after, (Volume.serve request).run site = .refused .noSpace after)
      ∧ ((plan.stores = true →
          plan.next.root.encode.length ≤ geometry.capacity) →
        ∃ after, (Volume.serve request).run site = .done plan.value after
          ∧ after.driver = ⟨some plan.next⟩) := by
  have run := seated.run_serve files
  rw [made, Action.run_bind, Action.run_ofExcept_ok] at run
  obtain ⟨other, known, follows⟩ := follows_planned made
  cases known
  have same : plan.next.geometry = geometryOf site.medium.device :=
    (follows seated.isRoot).geometry.trans
      (seated.same.trans seated.disk.symm)
  have suitable : Suitable (geometryOf site.medium.device) :=
    seated.disk ▸ seated.suitable
  have performs := @run_perform_of_same site.medium.device site.driver
    site.medium.events α plan suitable same
  rw [seated.disk] at performs
  rw [run]
  -- A plan is done or refused by the length of its image alone.
  constructor
  · intro stores long
    rw [if_pos stores, if_pos long] at performs
    exact ⟨_, performs⟩
  · intro fits
    by_cases stores : plan.stores = true
    · rw [if_pos stores, if_neg (Nat.not_lt.mpr (fits stores))] at performs
      exact ⟨_, performs, rfl⟩
    · rw [if_neg stores] at performs
      exact ⟨_, performs, rfl⟩

/-- A request that passes its checks is done if the tree that it makes
fits. -/
theorem done_of_produces (produces : Produces mounted request next)
    (fits : next.encode.length ≤ geometry.capacity) :
    ∃ value after, (Volume.serve request).run site = .done value after
      ∧ rootOf after = some next := by
  rcases planned_of_produces produces with
    ⟨plan, made, rfl, _⟩ | ⟨_, long⟩
  · obtain ⟨after, run, driver⟩ :=
      (seated.run_serve_of_ok produces.aboutFiles made).2 fun _ => fits
    exact ⟨plan.value, after, run, by rw [rootOf, driver]; rfl⟩
  · rw [seated.same] at long
    omega

/-- It is refused for want of room if the tree is too long. -/
theorem refused_of_produces (produces : Produces mounted request next)
    (long : geometry.capacity < next.encode.length) :
    ∃ after, (Volume.serve request).run site = .refused .noSpace after := by
  rcases planned_of_produces produces with
    ⟨plan, made, rfl, kept⟩ | ⟨full, _⟩
  · have stores : plan.stores = true := by
      refine eq_true_of_ne_false fun keeps => ?_
      -- The tree that is mounted is not too long.
      have room := seated.room
      rw [kept keeps] at long
      omega
    exact (seated.run_serve_of_ok produces.aboutFiles made).1 stores long
  · exact ⟨site, seated.run_serve_of_error produces.aboutFiles full⟩

/-- No request is refused for want of room that does not pass its
checks. -/
theorem produces_of_refused (files : AboutFiles request)
    {after : Site Volume RamDisk}
    (refused : (Volume.serve request).run site = .refused .noSpace after) :
    ∃ next, Produces mounted request next := by
  rcases refused_cases files refused with
    ⟨full, _⟩ | ⟨plan, _, made, stores, _⟩
  · rw [seated.driver] at full
    exact produces_of_noSpace seated.isRoot full
  · rw [seated.driver] at made
    exact ⟨_, produces_of_stores made stores⟩

end Seated

end

/-- A volume is mounted from a disk in memory, on which there may have been
anything. The length of a block is a machine word, and the blocks after the
first one have less than 2³² bytes in all. A request that passes its checks is
refused for want of room exactly if the image of the tree that it makes is
longer than these blocks, and done with this tree otherwise. No other request
is refused for want of room, and none is that removes something or opens a
file that is there. -/
theorem noSpace_iff_too_long {geometry : Geometry}
    (word : geometry.blockSize < wordLimit)
    (small : (geometry.blockCount - 1) * geometry.blockSize < 0x1_0000_0000)
    {site : Site Volume RamDisk} (resides : Resides geometry site)
    {mounted : Mounted} (known : site.driver.mounted = some mounted) :
    (∀ (α : Type) (request : Request α) (next : Tree),
        Produces mounted request next →
        ((∃ after, (Volume.serve request).run site = .refused .noSpace after)
          ↔ (geometry.blockCount - 1) * geometry.blockSize
            < next.encode.length)
        ∧ (next.encode.length
            ≤ (geometry.blockCount - 1) * geometry.blockSize →
          ∃ value after, (Volume.serve request).run site = .done value after
            ∧ rootOf after = some next))
      ∧ (∀ (α : Type) (request : Request α) (after : Site Volume RamDisk),
        AboutFiles request →
        (Volume.serve request).run site = .refused .noSpace after →
        ∃ next, Produces mounted request next)
      ∧ ∀ (α : Type) (request : Request α) (after : Site Volume RamDisk),
        Frees mounted.root request →
        (Volume.serve request).run site ≠ .refused .noSpace after := by
  have seated := resides.seated word small known
  have fits (α : Type) (request : Request α) (next : Tree)
      (produces : Produces mounted request next)
      (after : Site Volume RamDisk)
      (refused : (Volume.serve request).run site = .refused .noSpace after) :
      geometry.capacity < next.encode.length := by
    refine Nat.not_le.mp fun short => ?_
    obtain ⟨_, _, run, _⟩ := seated.done_of_produces produces short
    cases run.symm.trans refused
  refine ⟨fun α request next produces => ⟨⟨?_, ?_⟩, ?_⟩, ?_, ?_⟩
  · rintro ⟨after, refused⟩
    exact fits α request next produces after refused
  · exact seated.refused_of_produces produces
  · exact seated.done_of_produces produces
  · exact fun α request after files => seated.produces_of_refused files
  · intro α request after frees refused
    obtain ⟨next, produces⟩ :=
      seated.produces_of_refused frees.aboutFiles refused
    -- What can only get smaller still fits.
    have long := fits α request next produces after refused
    have shorter := produces.length_le seated.isRoot.formed frees
    have room := seated.room
    omega

/-- A disk that something else has written, the names not in order, and a
directory that is made there. -/
def crowded : Option (Site Volume RamDisk) :=
  let disk := stored ⟨54, 18, ∅⟩
    (.directory [("b", .file [7]), ("a", Tree.empty)])
  (asked .mount ⟨.fresh, ⟨disk, []⟩⟩).bind (asked (.makeDirectory "a/c"))

/-- There is no room for one more directory, but there is for one name
less. -/
theorem noSpace_iff_too_long_sample :
    ∃ (site : Site Volume RamDisk) (mounted : Mounted),
      Resides ⟨18, 3⟩ site ∧ site.driver.mounted = some mounted
      ∧ (∃ next after, Produces mounted (.makeDirectory "more") next
        ∧ (3 - 1) * 18 < next.encode.length
        ∧ (Volume.serve (.makeDirectory "more")).run site
          = .refused .noSpace after)
      ∧ ∃ next value after, Produces mounted (.unlink "b") next
        ∧ next.encode.length ≤ (3 - 1) * 18
        ∧ (Volume.serve (.unlink "b")).run site = .done value after
        ∧ rootOf after = some next := by
  have shape : (crowded.bind fun site =>
      site.driver.mounted.map fun mounted => mounted.root)
      = some (.directory [("a", .directory [("c", Tree.empty)]),
        ("b", .file [7])]) := by
    decide +kernel
  obtain ⟨site, made, shape⟩ := Option.bind_eq_some_iff.mp shape
  obtain ⟨mounted, known, root⟩ := Option.map_eq_some_iff.mp shape
  rw [crowded, Option.bind_eq_some_iff] at made
  obtain ⟨_, mounts, makes⟩ := made
  have resides : Resides ⟨18, 3⟩ site :=
    ((Resides.fresh (geometryOf_stored _ _) []).request .mount
      mounts).request (.makeDirectory "a/c") makes
  have small : (3 - 1) * 18 < 0x1_0000_0000 := by decide
  obtain ⟨full, _, _⟩ :=
    noSpace_iff_too_long (by decide) small resides known
  have produced : Produces mounted (.makeDirectory "more")
      (.directory [("a", .directory [("c", Tree.empty)]), ("b", .file [7]),
        ("more", Tree.empty)]) :=
    .makeDirectory (by decide : Volume.names "more" = .ok ["more"])
      (by rw [root]; rfl) (by rw [root]; rfl)
  have removed : Produces mounted (.unlink "b")
      (.directory [("a", .directory [("c", Tree.empty)])]) :=
    .unlink (by decide : Volume.names "b" = .ok ["b"])
      (by rw [root]; rfl) (by rw [root]; rfl)
  have long : (3 - 1) * 18 < (Tree.directory
      [("a", .directory [("c", Tree.empty)]), ("b", .file [7]),
        ("more", Tree.empty)]).encode.length := by
    decide +kernel
  have short : (Tree.directory
      [("a", .directory [("c", Tree.empty)])]).encode.length
        ≤ (3 - 1) * 18 := by
    decide +kernel
  obtain ⟨after, refused⟩ := (full _ _ _ produced).1.mpr long
  obtain ⟨value, last, done⟩ := (full _ _ _ removed).2 short
  exact ⟨site, mounted, resides, known,
    ⟨_, after, produced, long, refused⟩,
    _, value, last, removed, short, done⟩

end MountSpace.Proofs.Volumes
