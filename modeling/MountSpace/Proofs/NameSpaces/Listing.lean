import MountSpace.Device.RamDisk
import MountSpace.Proofs.NameSpaces.Volumes
import MountSpace.Proofs.Routing.Children
import MountSpace.Proofs.Routing.Lookup

/-!
# `MountSpace.Proofs.NameSpaces.Listing`: what is listed and what is there

A listing comes from one volume and the table of mounts, and a path below
the directory may be looked up in another volume. Both tell the same.

-/

set_option autoImplicit false

namespace MountSpace.Proofs.NameSpaces

open Effects
open MountSpace.NameSpace
open MountSpace.Path (segments)
open MountSpace.Tree (IsName)
open Paths Routing
open Trees (wellFormed_directory_iff wellFormed_of_lookup)

/-! ### Lists of names -/

theorem mem_merge_iff {names more : List String} {name : String} :
    name ∈ merge names more ↔ name ∈ names ∨ name ∈ more := by
  induction more generalizing names with
  | nil => simp [merge]
  | cons first rest ih =>
    have step : merge names (first :: rest)
        = merge (if first ∈ names then names else names ++ [first]) rest :=
      rfl
    rw [step, ih, List.mem_cons]
    split
    · next listed =>
      constructor
      · rintro (old | new)
        · exact Or.inl old
        · exact Or.inr (Or.inr new)
      · rintro (old | rfl | new)
        · exact Or.inl old
        · exact Or.inl listed
        · exact Or.inr new
    · rw [List.mem_append, List.mem_singleton, or_assoc]

/-- A name that is listed already is not added again. -/
theorem nodup_merge {names : List String} (distinct : names.Nodup)
    (more : List String) : (merge names more).Nodup := by
  induction more generalizing names with
  | nil => exact distinct
  | cons first rest ih =>
    have step : merge names (first :: rest)
        = merge (if first ∈ names then names else names ++ [first]) rest :=
      rfl
    rw [step]
    apply ih
    split
    · exact distinct
    · next absent =>
      rw [← List.concat_eq_append]
      exact distinct.concat absent

/-! ### Name spaces over volumes -/

variable {σ : Type}

/-- A name space in order, with a volume behind every mount. -/
structure OverVolumes (space : NameSpace Backend σ) : Prop where
  routed : Routed space
  serving : Serving InOrder space
  volumes : ∀ mount ∈ space.mounts, ∃ volume,
    space.world.driver? mount.driver = some (.volume volume)

/-- The name space with one event more. -/
def noted (event : Event) (space : NameSpace Backend σ) :
    NameSpace Backend σ :=
  { space with
    world :=
      { space.world with events := event :: space.world.events } }

section

variable {space : NameSpace Backend σ} {mount : Mount DriverId}
  {path rest : String}

theorem OverVolumes.noted (based : OverVolumes space) (event : Event) :
    OverVolumes (noted event space) :=
  ⟨⟨based.routed.directory, based.routed.ordered⟩,
    based.serving.congr rfl fun _ serves => serves, based.volumes⟩

/-- The volume behind a mount is mounted, and is there with its device. -/
theorem OverVolumes.site? (based : OverVolumes space)
    (member : mount ∈ space.mounts) :
    ∃ mounted medium, mounted.root.WellFormed
      ∧ space.world.site? mount.driver
        = some ⟨.volume ⟨some mounted⟩, medium⟩ := by
  obtain ⟨volume, isVolume⟩ := based.volumes mount member
  obtain ⟨⟨driver, medium⟩, found, inOrder⟩ :=
    (based.serving.serves mount member).site?
  obtain ⟨device, there, _⟩ := site?_eq_some_iff.mp found
  rw [World.driver?, there] at isVolume
  cases isVolume
  obtain ⟨mounted, same, isRoot⟩ := inOrder
  cases volume
  cases same
  exact ⟨mounted, medium, isRoot.formed, found⟩

theorem site?_noted {driver : DriverId} {backend : Backend}
    {medium : Medium σ} (event : Event)
    (there : space.world.site? driver = some ⟨backend, medium⟩) :
    (noted event space).world.site? driver
      = some ⟨backend, { medium with events := event :: medium.events }⟩ := by
  obtain ⟨device, isThere, found, events⟩ := site?_eq_some_iff.mp there
  exact site?_eq_some_iff.mpr
    ⟨device, isThere, found, congrArg (List.cons event) events⟩

/-- A look-up of a path in normal form leaves an event behind. -/
theorem run_lookup_eq (normal : IsNormal path)
    (routes : space.mounts.find path = .ok (mount, rest)) :
    (lookup path).run space
      = .done (mount, rest) (noted (.routed path mount.path rest) space) := by
  rw [run_lookup, normal.resolve, routes]
  rfl

variable [BlockDevice σ]

/-- A path names something. -/
def Found (space : NameSpace Backend σ) (path : String) : Prop :=
  ∃ found after, (stat path).run space = .done found after

/-- A path names something when its volume finds something. -/
theorem found_iff (normal : IsNormal path)
    (routes : space.mounts.find path = .ok (mount, rest))
    {mounted : Mounted} {medium : Medium σ}
    (there : space.world.site? mount.driver
      = some ⟨.volume ⟨some mounted⟩, medium⟩) :
    Found space path ↔ ∃ tree, treeAt mounted.root rest = .ok tree := by
  have there := site?_noted (.routed path mount.path rest) there
  have answers := run_serve_volume ⟨some mounted⟩
    { medium with
      events := .routed path mount.path rest :: medium.events } (.stat rest)
  rw [run_stat] at answers
  rw [Found, stat, Action.run_bind, run_lookup_eq normal routes]
  cases found : treeAt mounted.root rest with
  | ok tree =>
    rw [found] at answers
    have run := run_call_of_done there answers
    exact ⟨fun _ => ⟨tree, rfl⟩, fun _ => ⟨_, _, run⟩⟩
  | error fault =>
    rw [found] at answers
    have run := run_call_of_refused there answers
    simp [run]

/-- What is listed is in the tree of a volume or in the table of mounts.
Nothing but an event is left behind. -/
theorem listed_of_run (based : OverVolumes space) (normal : IsNormal path)
    {names : List String} {after : NameSpace Backend σ}
    (run : (list path).run space = .done names after) :
    ∃ mount rest mounted medium entries event,
      mount ∈ space.mounts
      ∧ space.mounts.find path = .ok (mount, rest)
      ∧ space.world.site? mount.driver
        = some ⟨.volume ⟨some mounted⟩, medium⟩
      ∧ mounted.root.WellFormed
      ∧ treeAt mounted.root rest = .ok (.directory entries)
      ∧ names = merge (Keyed.keys entries) (space.mounts.children path)
      ∧ after = noted event space := by
  cases routes : space.mounts.find path with
  | error fault =>
    rw [list, Action.run_bind, run_lookup, normal.resolve,
      routes] at run
    nomatch run
  | ok answer =>
    obtain ⟨mount, rest⟩ := answer
    have member := (find_eq_ok based.routed.ordered normal routes).1.member
    obtain ⟨mounted, medium, formed, found⟩ := based.site? member
    have there := site?_noted (.routed path mount.path rest) found
    have answers := run_serve_volume ⟨some mounted⟩
      { medium with
        events := .routed path mount.path rest :: medium.events }
      (.list rest)
    rw [run_list] at answers
    rw [list, Action.run_bind, run_lookup_eq normal routes] at run
    cases held : treeAt mounted.root rest with
    | error fault =>
      rw [held] at answers
      simp only [Action.run_bind, run_call_of_refused there answers] at run
      nomatch run
    | ok tree =>
      cases tree with
      | file data =>
        rw [held] at answers
        simp only [Action.run_bind, run_call_of_refused there answers] at run
        nomatch run
      | directory entries =>
        rw [held] at answers
        simp only [Action.run_bind, run_call_of_done there answers] at run
        obtain ⟨names, after⟩ := Ending.done.inj run
        rw [normal.resolve] at names
        exact ⟨mount, rest, mounted, medium, entries, _, member, rfl, found,
          formed, held, names.symm, after.symm⟩

/-- A path in a directory that can be listed names something exactly when
its name is in the tree, or it is the path of a mount. -/
theorem found_iff_mem (based : OverVolumes space) (normal : IsNormal path)
    (below : path ≠ "/") {name : String}
    (named : Path.fileName path = some name)
    (routes : space.mounts.find (Path.parent path) = .ok (mount, rest))
    {mounted : Mounted} {medium : Medium σ}
    (there : space.world.site? mount.driver
      = some ⟨.volume ⟨some mounted⟩, medium⟩)
    (formed : mounted.root.WellFormed) {entries : Keyed String Tree}
    (directory : treeAt mounted.root rest = .ok (.directory entries)) :
    Found space path
      ↔ name ∈ merge (Keyed.keys entries)
        (space.mounts.children (Path.parent path)) := by
  have ordered := based.routed.ordered
  rw [mem_merge_iff, mem_children_iff ordered normal below named]
  by_cases here : path ∈ space.mounts.map Mount.path
  · -- The root of the volume that is mounted here is always found.
    obtain ⟨top, member, rfl⟩ := List.mem_map.mp here
    obtain ⟨mountedTop, mediumTop, _, thereTop⟩ := based.site? member
    have found := (found_iff normal (find_of_mem ordered member)
      thereTop).mpr ⟨_, treeAt_root _⟩
    exact ⟨fun _ => Or.inr here, fun _ => found⟩
  · obtain ⟨further, routesBelow, normalFurther, split⟩ :=
      find_of_not_mem ordered normal below named here routes
    have normalRest : IsNormal rest :=
      (find_eq_ok ordered normal.parent routes).2.1
    rw [found_iff normal routesBelow there, treeAt_child_iff formed normalRest
      directory normalFurther split]
    simp [here]

omit [BlockDevice σ] in
/-- All names that are listed are names of entries. -/
theorem isName_of_mem_merge (based : OverVolumes space)
    {entries : Keyed String Tree}
    (formed : (Tree.directory entries).WellFormed) {name : String}
    (member : name ∈ merge (Keyed.keys entries)
      (space.mounts.children path)) : IsName name := by
  cases mem_merge_iff.mp member with
  | inl inTree =>
    obtain ⟨entry, listed, rfl⟩ := List.mem_map.mp inTree
    exact ((wellFormed_directory_iff.mp formed).2 entry listed).1.1
  | inr isMount => exact isName_of_mem_children based.routed.ordered isMount

theorem overVolumes_of_reachable (reachable : Reachable Extends space)
    (volumes : ∀ mount ∈ space.mounts, ∃ volume,
      space.world.driver? mount.driver = some (.volume volume)) :
    OverVolumes space :=
  ⟨routed_of_reachable reachable,
    serving_of_reachable lasting_inOrder (fun _ _ grown => grown) reachable,
    volumes⟩

end

/-- Whatever devices do, a listing and look-ups tell the same. In a name
space that only has volumes mounted, the names listed for a directory are
distinct, and a path in it names something exactly when its name is among
them, before and after. In particular every name that is listed leads to
something. -/
theorem listed_iff_found {σ : Type} [BlockDevice σ]
    {space : NameSpace Backend σ} (reachable : Reachable Extends space)
    (volumes : ∀ mount ∈ space.mounts, ∃ volume,
      space.world.driver? mount.driver = some (.volume volume))
    {path : String} (normal : IsNormal path) (below : path ≠ "/")
    {names : List String} {after : NameSpace Backend σ}
    (run : (list (Path.parent path)).run space = .done names after) :
    names.Nodup
    ∧ (∃ name, Path.fileName path = some name
      ∧ (Found space path ↔ name ∈ names)
      ∧ (Found after path ↔ name ∈ names))
    ∧ ∀ name ∈ names, IsNormal (Path.child (Path.parent path) name)
      ∧ Found space (Path.child (Path.parent path) name) := by
  have based := overVolumes_of_reachable reachable volumes
  obtain ⟨mount, rest, mounted, medium, entries, event, member, routes, there,
    formed, directory, rfl, rfl⟩ := listed_of_run based normal.parent run
  have normalRest : IsNormal rest :=
    (find_eq_ok based.routed.ordered normal.parent routes).2.1
  have entriesFormed : (Tree.directory entries).WellFormed :=
    wellFormed_of_lookup formed
      ((treeAt_eq_ok_iff formed normalRest).mp directory)
  obtain ⟨name, named, _⟩ := segments_parent normal below
  refine ⟨nodup_merge entriesFormed.1.nodup _, ⟨name, named, ?_, ?_⟩, ?_⟩
  · exact found_iff_mem based normal below named routes there formed directory
  · exact found_iff_mem (based.noted event) normal below named routes
      (site?_noted event there) formed directory
  · intro name listed
    have isName := isName_of_mem_merge based entriesFormed listed
    obtain ⟨normalChild, belowChild, parent, named⟩ :=
      child_isNormal normal.parent isName
    rw [← parent] at routes listed
    refine ⟨normalChild, ?_⟩
    exact (found_iff_mem based normalChild belowChild named routes there formed
      directory).mpr listed

/-- A volume at the root, with a directory, and a volume next to it. -/
def sampleCommands : List (Command Backend Unit) :=
  [.register "blockfs" .freshVolume, .mount "/" 0 "blockfs" true,
    .makeDirectory "/made", .mount "/other" 1 "blockfs" true]

/-- A world with two blank disks. -/
def sampleWorld : World Backend RamDisk :=
  ⟨[⟨96, 32, ∅⟩, ⟨96, 32, ∅⟩], [], []⟩

/-- The directory and the other volume are listed, and both are found. -/
theorem listed_iff_found_sample :
    ∃ space after : NameSpace Backend RamDisk,
      Reachable Extends space
      ∧ (∀ mount ∈ space.mounts, ∃ volume,
        space.world.driver? mount.driver = some (.volume volume))
      ∧ IsNormal "/other" ∧ "/other" ≠ "/"
      ∧ (list (Path.parent "/other")).run space
        = .done ["made", "other"] after
      ∧ Found after "/other" ∧ Found space "/made" := by
  have shape : (((afterAll sampleCommands
        { (NameSpace.empty 1 : NameSpace Backend RamDisk) with
          world := sampleWorld }).map fun space =>
      (space.mounts.all fun mount =>
        ((space.world.driver? mount.driver).bind volume?).isSome,
      ((list (Path.parent "/other")).run space).reply?))
        = some (true, some (.ok ["made", "other"]))) := by
    decide +kernel
  obtain ⟨space, left, tells⟩ := Option.map_eq_some_iff.mp shape
  obtain ⟨onlyVolumes, listed⟩ := Prod.mk.inj tells
  have grown : Extends World.empty sampleWorld :=
    ⟨Nat.zero_le _, List.nil_prefix⟩
  have reachable : Reachable Extends space :=
    ((Reachable.empty 1).outside sampleWorld grown).afterAll left
  have volumes : ∀ mount ∈ space.mounts, ∃ volume,
      space.world.driver? mount.driver = some (.volume volume) := by
    intro mount member
    have isVolume := List.all_eq_true.mp onlyVolumes mount member
    obtain ⟨volume, found⟩ := Option.isSome_iff_exists.mp isVolume
    obtain ⟨driver, installed, isVolume⟩ := Option.bind_eq_some_iff.mp found
    cases volume?_eq_some_iff.mp isVolume
    exact ⟨volume, installed⟩
  have normal : IsNormal "/other" := by decide
  have below : "/other" ≠ "/" := by decide
  cases run : (list (Path.parent "/other")).run space with
  | done names after =>
    rw [run] at listed
    cases listed
    obtain ⟨_, ⟨name, named, _, found⟩, all⟩ :=
      listed_iff_found reachable volumes normal below run
    have last : name = "other" :=
      Option.some.inj (named.symm.trans (by decide))
    refine ⟨space, after, reachable, volumes, normal, below, run,
      found.mpr (by rw [last]; decide), ?_⟩
    exact (all "made" (by decide)).2
  | refused fault after =>
    rw [run] at listed
    cases listed
  | stopped after =>
    rw [run] at listed
    cases listed

end MountSpace.Proofs.NameSpaces
