import MountSpace.Device.RamDisk
import MountSpace.Proofs.NameSpaces.Reachable
import MountSpace.Proofs.NameSpaces.Routes
import MountSpace.Proofs.Routing.Table
import MountSpace.Scratch

/-!
# `MountSpace.Proofs.Routing.Lookup`: every path goes to the nearest mount

The working directory of a name space in use is an absolute path in
normal form, and its mounts are in order (`Routed`). Only three commands
touch them. Mounting and going to another directory resolve their path
first, and unmounting takes a mount out.

* `routed_of_reachable`: all name spaces in use are routed.
* `lookup_nearest`: so a path is handed to the mount whose names are the
  longest beginning of its own, with the names that are left, and to none
  where there is no such mount.
-/

set_option autoImplicit false

namespace MountSpace.Proofs.Routing

open Effects NameSpaces
open MountSpace.NameSpace
open MountSpace.Path (segments)
open Paths (IsNormal isNormal_resolve)

variable {δ σ : Type}

/-- Paths can be handed to volumes by their names. -/
structure Routed (space : NameSpace δ σ) : Prop where
  directory : IsNormal space.directory
  ordered : Ordered space.mounts

theorem routed_empty (descriptorLimit : Nat) :
    Routed (NameSpace.empty descriptorLimit : NameSpace δ σ) := by
  constructor
  · show IsNormal "/"
    decide
  · exact ordered_nil

/-- What is known of a path and the routes depends on nothing else. -/
theorem onlyRoutes_and (fact : Prop) :
    OnlyRoutes fun space : NameSpace δ σ => fact ∧ Routed space := by
  intro space other mounts directory ⟨holds, routed⟩
  refine ⟨holds, ?_, ?_⟩
  · rw [directory]
    exact routed.directory
  · rw [mounts]
    exact routed.ordered

theorem onlyRoutes_routed : OnlyRoutes (Routed : NameSpace δ σ → Prop) :=
  fun space other mounts directory routed =>
    (onlyRoutes_and True space other mounts directory ⟨trivial, routed⟩).2

/-! ### The three commands that touch the routes -/

/-- A resolved path is in normal form. -/
theorem ensures_resolve (path : String) :
    Ensures Routed (resolve path : Action (NameSpace δ σ) String)
      (fun path space => IsNormal path ∧ Routed space)
      (fun _ => Routed) :=
  fun _ routed => ⟨isNormal_resolve routed.directory.1 path, routed⟩

/-- What goes on between two uses of a path leaves it as it is. -/
theorem ensures_of_keeps {α : Type} {fact : Prop}
    {action : Action (NameSpace δ σ) α}
    (keeps : Keeps (fun space => fact ∧ Routed space) action) :
    Ensures (fun space => fact ∧ Routed space) action
      (fun _ space => fact ∧ Routed space) (fun _ => Routed) :=
  keeps.imp (fun _ => id) (fun _ _ => id) (fun _ _ known => known.2)

theorem ensures_enter (mount : Mount DriverId) :
    Ensures (fun space => IsNormal mount.path ∧ Routed space)
      (enter mount : Action (NameSpace δ σ) Unit)
      (fun _ => Routed) (fun _ => Routed) := by
  intro space ⟨normal, routed⟩
  rw [run_enter]
  cases inserted : space.mounts.insert mount with
  | ok mounts =>
    exact ⟨routed.directory, routed.ordered.insert normal inserted⟩
  | error fault => exact routed

theorem keeps_withdraw (path : String) :
    Keeps Routed (withdraw path :
      Action (NameSpace δ σ) (Mount DriverId)) := by
  intro space routed
  rw [run_withdraw]
  cases removed : space.mounts.remove path with
  | ok answer => exact ⟨routed.directory, routed.ordered.remove removed⟩
  | error fault => exact routed

variable [Driver δ σ]

theorem keeps_changeDirectory (path : String) :
    Keeps Routed (changeDirectory path : Action (NameSpace δ σ) Unit) := by
  refine ensures_bind (ensures_resolve path) ?_
  intro path
  refine ensures_bind (ensures_of_keeps
    (keeps_requireDirectory ((onlyRoutes_and _).steady.stat _)))
    fun _ => ?_
  intro space ⟨normal, routed⟩
  exact ⟨normal, routed.ordered⟩

theorem keeps_mount (path : String) (device : DeviceId) (fsType : String)
    (autoFormat : Bool) :
    Keeps Routed (mount path device fsType autoFormat :
      Action (NameSpace δ σ) Unit) := by
  refine ensures_bind (ensures_resolve path) ?_
  intro path
  have routes : OnlyRoutes fun space : NameSpace δ σ =>
      IsNormal path ∧ Routed space := onlyRoutes_and _
  refine ensures_bind (ensures_of_keeps
    (keeps_requireParent (routes.steady.stat _))) fun _ => ?_
  refine ensures_bind (ensures_of_keeps
    (keeps_requireFree path)) fun _ => ?_
  refine ensures_bind (ensures_of_keeps
    (keeps_build routes fsType device)) fun driver => ?_
  refine ensures_bind (ensures_of_keeps
    (keeps_start routes path driver autoFormat)) fun _ => ?_
  refine ensures_bind (ensures_enter ⟨path, fsType, driver⟩) ?_
  intro _
  exact keeps_note onlyRoutes_routed _

theorem keeps_unmount (path : String) :
    Keeps Routed (unmount path : Action (NameSpace δ σ) Unit) := by
  refine keeps_bind (keeps_resolve path) ?_
  intro path
  refine keeps_bind (keeps_withdraw path) ?_
  intro mount
  refine keeps_bind (keeps_note onlyRoutes_routed _) ?_
  intro _
  refine keeps_onRefusal (keeps_call onlyRoutes_routed _ _) ?_
  intro fault
  exact keeps_note onlyRoutes_routed _

/-- All name spaces in use are routed. -/
theorem routed_of_reachable {others : World δ σ → World δ σ → Prop}
    {space : NameSpace δ σ} (reachable : Reachable others space) :
    Routed space := by
  refine reachable.holds routed_empty ?_ ?_
  · intro space world routed _
    exact onlyRoutes_routed space _ rfl rfl routed
  · exact fun command => keeps_run onlyRoutes_routed keeps_mount
      keeps_unmount keeps_changeDirectory command

/-! ### Looking up -/

/-- A path is handed to the mount whose names are the longest beginning of
its own, with the names that are left. It is not found where there is no
such mount, and nowhere else. -/
theorem lookup_nearest {others : World δ σ → World δ σ → Prop}
    {space : NameSpace δ σ} (reachable : Reachable others space)
    (path : String) :
    let target := Path.resolve space.directory path
    ((lookup path).run space = .refused .notFound space
      ↔ ∀ mount ∈ space.mounts, ¬ segments mount.path <+: segments target)
    ∧ ((∃ mount ∈ space.mounts, segments mount.path <+: segments target) →
      ∃ mount rest after,
        (lookup path).run space = .done (mount, rest) after
        ∧ Nearest space.mounts target mount
        ∧ (∀ other, Nearest space.mounts target other → other = mount)
        ∧ IsNormal rest
        ∧ segments mount.path ++ segments rest = segments target) := by
  intro target
  have routed := routed_of_reachable reachable
  have normal : IsNormal target := isNormal_resolve routed.directory.1 path
  have run := run_lookup path space
  cases found : space.mounts.find target with
  | error fault =>
    rw [found] at run
    obtain ⟨rfl, apart⟩ := (find_eq_error_iff routed.ordered normal).mp found
    refine ⟨⟨fun _ => apart, fun _ => run⟩, ?_⟩
    intro ⟨mount, member, above⟩
    exact absurd above (apart mount member)
  | ok answer =>
    obtain ⟨mount, rest⟩ := answer
    obtain ⟨nearest, normalRest, names⟩ :=
      find_eq_ok routed.ordered normal found
    rw [found] at run
    refine ⟨?_, fun _ => ⟨mount, rest, _, run, nearest,
      fun other => nearest.eq, normalRest, names⟩⟩
    rw [run]
    constructor
    · nofun
    · intro apart
      exact absurd nearest.above (apart mount nearest.member)

/-- A scratch volume at the root and two more, with paths of which one is
the beginning of the other as text. -/
def sampleCommands : List (Command Scratch Unit) :=
  [.register "scratch" .fresh, .mount "/" 0 "scratch" true,
    .mount "/flash" 0 "scratch" true, .mount "/flash1" 0 "scratch" true,
    .changeDirectory "/flash1"]

/-- A world with one device, on which all of them are mounted. -/
def sampleWorld : World Scratch RamDisk :=
  ⟨[⟨32, 16, ∅⟩], [], []⟩

theorem lookup_nearest_sample :
    ∃ space : NameSpace Scratch RamDisk,
      Reachable (fun _ _ => True) space
      ∧ space.mounts.map Mount.path = ["/flash", "/flash1", "/"]
      ∧ ∃ mount rest after,
        (lookup "x").run space = .done (mount, rest) after
        ∧ Nearest space.mounts "/flash1/x" mount
        ∧ segments mount.path ++ segments rest = ["flash1", "x"] := by
  have shape : ((afterAll sampleCommands
        { (NameSpace.empty 1 : NameSpace Scratch RamDisk) with
          world := sampleWorld }).map fun space =>
      (space.mounts.map Mount.path, space.directory))
        = some (["/flash", "/flash1", "/"], "/flash1") := by
    decide +kernel
  obtain ⟨space, left, tables⟩ := Option.map_eq_some_iff.mp shape
  obtain ⟨mounts, directory⟩ := Prod.mk.inj tables
  have reachable : Reachable (fun _ _ => True) space :=
    ((Reachable.empty 1).outside sampleWorld trivial).afterAll left
  have root : "/" ∈ space.mounts.map Mount.path := by
    rw [mounts]
    decide
  obtain ⟨mount, member, path⟩ := List.mem_map.mp root
  have target : Path.resolve space.directory "x" = "/flash1/x" := by
    rw [directory]
    decide
  have above : segments mount.path
      <+: segments (Path.resolve space.directory "x") := by
    rw [path, target]
    exact ⟨["flash1", "x"], by decide⟩
  have found := (lookup_nearest reachable "x").2 ⟨mount, member, above⟩
  rw [target] at found
  obtain ⟨nearest, rest, after, run, is, _, _, names⟩ := found
  have names : segments nearest.path ++ segments rest = ["flash1", "x"] :=
    names.trans (by decide)
  exact ⟨space, reachable, mounts, nearest, rest, after, run, is, names⟩

end MountSpace.Proofs.Routing
