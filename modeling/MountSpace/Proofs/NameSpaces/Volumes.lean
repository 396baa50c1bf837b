import MountSpace.Backend
import MountSpace.Proofs.NameSpaces.Serving
import MountSpace.Proofs.Volumes.Rooted

/-!
# `MountSpace.Proofs.NameSpaces.Volumes`: volumes behind mounts

Every volume behind a mount of a name space in use is mounted, and has a
tree that it can hold (`lasting_inOrder`). What it is asked about its tree
it answers from memory (`run_stat`, `run_list`).
-/

set_option autoImplicit false

namespace MountSpace.Proofs.NameSpaces

open Effects
open MountSpace.NameSpace
open MountSpace.Path (segments)
open Paths
open Trees (lookup_append storable_of_lookup)
open Volumes (AboutFiles Rooted current ensures_planned ensures_rooted
  keeps_rooted planned run_ofExcept_onMounted)

variable {σ α : Type} [BlockDevice σ]

/-- The volume, if the driver is one. -/
def volume? : Backend → Option Volume
  | .volume volume => some volume
  | .scratch _ => none

theorem volume?_eq_some_iff {backend : Backend} {volume : Volume} :
    volume? backend = some volume ↔ backend = .volume volume := by
  cases backend <;> simp [volume?]

/-- The tree behind a mount, if there is a volume with one. -/
def treeOf (space : NameSpace Backend σ) (mount : Mount DriverId) :
    Option Tree := do
  let volume ← (space.world.driver? mount.driver).bind volume?
  let mounted ← volume.mounted
  return mounted.root

/-- The trees of the volumes behind mounts. -/
def trees (space : NameSpace Backend σ) : List (Option Tree) :=
  space.mounts.map (treeOf space)

omit [BlockDevice σ] in
theorem exists_volume_of_treeOf {space : NameSpace Backend σ}
    {mount : Mount DriverId} {tree : Tree}
    (known : treeOf space mount = some tree) :
    ∃ volume, space.world.driver? mount.driver = some (.volume volume) := by
  obtain ⟨volume, found, _⟩ := Option.bind_eq_some_iff.mp known
  obtain ⟨driver, installed, isVolume⟩ := Option.bind_eq_some_iff.mp found
  exact ⟨volume, volume?_eq_some_iff.mp isVolume ▸ installed⟩

/-- The commands that mount a volume at the root. -/
def rootVolume : List (Command Backend Unit) :=
  [.register "blockfs" .freshVolume, .mount "/" 0 "blockfs" true]

/-! ### Answers of a volume -/

/-- The tree at a path that is written as text. -/
def treeAt (root : Tree) (path : String) : Except Fault Tree := do
  root.lookup (← Volume.names path)

/-- The names of a path in normal form are looked up as they are, if they
are short enough. -/
theorem names_of_isNormal {path : String} (normal : IsNormal path) :
    Volume.names path =
      if (segments path).any fun name => maxNameLength < name.utf8ByteSize
      then .error .nameTooLong else .ok (segments path) := by
  obtain ⟨names, fit, rfl⟩ := isNormal_iff.mp normal
  have form : Path.normalForm (ofNames names) = ⟨true, names⟩ :=
    normalForm_render (reduced_of_isName fit)
  simp only [Volume.names, if_pos normal.1, form, segments_ofNames fit]

/-- In a well-formed tree nothing is found at names that are too long, so
they need not be told apart. -/
theorem treeAt_eq_ok_iff {root tree : Tree} {path : String}
    (formed : root.WellFormed) (normal : IsNormal path) :
    treeAt root path = .ok tree
      ↔ root.lookup (segments path) = .ok tree := by
  rw [treeAt, names_of_isNormal normal]
  by_cases long : ((segments path).any fun name =>
      maxNameLength < name.utf8ByteSize) = true
  · rw [if_pos long]
    constructor
    · nofun
    · intro found
      obtain ⟨name, member, tooLong⟩ := List.any_eq_true.mp long
      have short := (storable_of_lookup formed found name member).2
      exact absurd (of_decide_eq_true tooLong) (Nat.not_lt.mpr short)
  · rw [if_neg long]
    exact Iff.rfl

theorem treeAt_root (root : Tree) : treeAt root "/" = .ok root := by
  have none : Volume.names "/" = .ok [] := by decide
  rw [treeAt, none]
  rfl

/-- In a directory those names lead to something that are listed. -/
theorem treeAt_child_iff {root : Tree} {entries : Keyed String Tree}
    {rest further name : String} (formed : root.WellFormed)
    (normal : IsNormal rest)
    (found : treeAt root rest = .ok (.directory entries))
    (normalFurther : IsNormal further)
    (split : segments further = segments rest ++ [name]) :
    (∃ tree, treeAt root further = .ok tree)
      ↔ name ∈ Keyed.keys entries := by
  have directory := (treeAt_eq_ok_iff formed normal).mp found
  simp only [treeAt_eq_ok_iff formed normalFurther, split, lookup_append,
    directory, ok_bind, Tree.lookup]
  rw [← Keyed.contains_eq_true_iff, Keyed.contains]
  cases Keyed.get? entries name <;> simp

/-- What a path names is told from the tree in memory. -/
theorem run_stat (mounted : Mounted) (medium : Medium σ) (path : String) :
    (Volume.serve (.stat path)).run ⟨⟨some mounted⟩, medium⟩ =
      match treeAt mounted.root path with
      | .ok tree => .done tree.stat ⟨⟨some mounted⟩, medium⟩
      | .error fault => .refused fault ⟨⟨some mounted⟩, medium⟩ := by
  show (Volume.atPath path Mounted.stat).run _ = _
  rw [Volume.atPath, run_ofExcept_onMounted, treeAt]
  cases Volume.names path with
  | error fault => rfl
  | ok names =>
    simp only [ok_bind, current, Mounted.stat]
    cases mounted.root.lookup names <;> rfl

/-- And so are the names in a directory. -/
theorem run_list (mounted : Mounted) (medium : Medium σ) (path : String) :
    (Volume.serve (.list path)).run ⟨⟨some mounted⟩, medium⟩ =
      match treeAt mounted.root path with
      | .ok (.directory entries) =>
        .done (Keyed.keys entries) ⟨⟨some mounted⟩, medium⟩
      | .ok (.file _) => .refused .notDirectory ⟨⟨some mounted⟩, medium⟩
      | .error fault => .refused fault ⟨⟨some mounted⟩, medium⟩ := by
  show (Volume.atPath path Mounted.list).run _ = _
  rw [Volume.atPath, run_ofExcept_onMounted, treeAt]
  cases Volume.names path with
  | error fault => rfl
  | ok names =>
    simp only [ok_bind, current, Mounted.list]
    cases found : mounted.root.lookup names with
    | error fault => rfl
    | ok tree => cases tree <;> rfl

/-! ### Volumes among other drivers -/

omit [BlockDevice σ] in
/-- What a driver inside another one does, the outer one does. -/
theorem meets_hosting {δ ε : Type} (inner : δ) (outer : δ → ε)
    {action : Action (Site δ σ) α} {site : Site ε σ}
    {done : α → Site ε σ → Prop} {refused : Fault → Site ε σ → Prop}
    (meets : Meets
      (fun value left => done value ⟨outer left.driver, left.medium⟩)
      (fun fault left => refused fault ⟨outer left.driver, left.medium⟩)
      (action.run ⟨inner, site.medium⟩)) :
    Meets done refused ((Site.hosting inner outer action).run site) := by
  rw [Site.hosting, Action.run_within]
  cases ending : action.run ⟨inner, site.medium⟩ with
  | done value left | refused fault left =>
    rw [ending] at meets
    exact meets
  | stopped trap => trivial

/-- A volume answers as it does by itself. -/
theorem run_serve_volume (volume : Volume) (medium : Medium σ)
    (request : Request α) :
    (Driver.serve request).run (⟨.volume volume, medium⟩ : Site Backend σ) =
      match (Volume.serve request).run ⟨volume, medium⟩ with
      | .done value left => .done value ⟨.volume left.driver, left.medium⟩
      | .refused fault left =>
        .refused fault ⟨.volume left.driver, left.medium⟩
      | .stopped trap => .stopped trap := by
  show (Site.hosting volume Backend.volume (Volume.serve request)).run _ = _
  rw [Site.hosting, Action.run_within]
  cases (Volume.serve request).run ⟨volume, medium⟩ <;> rfl

/-- And it stays a volume. -/
theorem meets_of_volume {request : Request α} {volume : Volume}
    {site : Site Backend σ} (isVolume : site.driver = .volume volume)
    {done : α → Site Volume σ → Prop} {refused : Fault → Site Volume σ → Prop}
    (meets : Meets done refused
      ((Volume.serve request).run ⟨volume, site.medium⟩)) :
    Meets
      (fun value left => ∃ volume, left.driver = .volume volume
        ∧ done value ⟨volume, left.medium⟩)
      (fun fault left => ∃ volume, left.driver = .volume volume
        ∧ refused fault ⟨volume, left.medium⟩)
      ((Driver.serve request).run site) := by
  obtain ⟨_, medium⟩ := site
  cases isVolume
  refine meets_hosting volume Backend.volume (meets.imp ?_ ?_)
  · exact fun _ left known => ⟨left.driver, rfl, known⟩
  · exact fun _ left known => ⟨left.driver, rfl, known⟩

/-- What a volume among other drivers comes to when it is asked about
files: to what was planned, or to what it was. -/
theorem ensures_volume {request : Request α} (files : AboutFiles request)
    (volume : Volume) :
    Ensures (fun site : Site Backend σ => site.driver = .volume volume)
      (Driver.serve request)
      (fun value site => ∃ plan, planned volume request = .ok plan
        ∧ value = plan.value ∧ site.driver = .volume ⟨some plan.next⟩)
      (fun _ site => site.driver = .volume volume) := by
  intro site isVolume
  refine (meets_of_volume isVolume ((ensures_planned files).apply rfl)).imp
    ?_ ?_
  · rintro value left ⟨_, driver, plan, made, rfl, rfl⟩
    exact ⟨plan, made, rfl, driver⟩
  · rintro fault left ⟨_, driver, rfl⟩
    exact driver

/-- A volume is mounted with a tree that it can hold. Of other drivers
nothing is asked. -/
def InOrder : Backend → Prop
  | .volume volume => Rooted volume
  | .scratch _ => True

/-- A volume that has been mounted is in order, and stays so as long as it
is asked about files. No driver turns into one of another type. -/
theorem lasting_inOrder : Lasting σ InOrder where
  mount := by
    rintro ⟨driver, medium⟩ _
    cases driver with
    | volume volume =>
      refine meets_hosting volume Backend.volume ?_
      exact ensures_rooted.apply trivial
    | scratch inner =>
      refine meets_hosting inner Backend.scratch ?_
      exact meets_of_forall _ (fun _ _ => trivial) (fun _ _ => trivial)
  files files := by
    rintro ⟨driver, medium⟩ inOrder
    cases driver with
    | volume volume =>
      refine meets_hosting volume Backend.volume ?_
      exact (keeps_rooted files).apply inOrder
    | scratch inner =>
      refine meets_hosting inner Backend.scratch ?_
      exact meets_of_forall _ (fun _ _ => trivial) (fun _ _ => trivial)

end MountSpace.Proofs.NameSpaces
