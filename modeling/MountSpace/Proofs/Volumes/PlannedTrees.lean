import MountSpace.Proofs.Paths.Absolute
import MountSpace.Proofs.Trees.Shape
import MountSpace.Proofs.Volumes.Plans

/-!
# `MountSpace.Proofs.Volumes.PlannedTrees`: the trees of plans

From a well-formed directory only plans for another one are made.

* `makeDirectory_eq_ok`, `removeDirectory_eq_ok`, `unlink_eq_ok`,
  `rename_eq_ok`: what was found in the tree, and how it is edited.
* `storable_of_names`: the names that a text leads through can be stored.
* `Follows`: what is known of the tree of a plan, and of the geometry it
  is for. A plan that stores nothing leaves the tree as it is.
* `follows_openFile`, `follows_write`, …: the plans of the operations
  follow what is mounted.
* `follows_planned`: so does the plan for any request.
-/

set_option autoImplicit false

namespace MountSpace.Proofs.Volumes

open Effects Paths Trees

/-! ### Plans that edit the tree -/

section

variable {mounted : Mounted} {path : List String} {plan : Plan Unit}

theorem makeDirectory_eq_ok (made : mounted.makeDirectory path = .ok plan) :
    mounted.root.lookup path = .error .notFound
      ∧ ∃ root, mounted.root.put path Tree.empty = .ok root
        ∧ plan = mounted.storing root () := by
  rw [Mounted.makeDirectory] at made
  split at made
  · cases made
  · next missing =>
    obtain ⟨root, put, made⟩ := bind_eq_ok_iff.mp made
    cases made
    exact ⟨missing, root, put, rfl⟩
  · cases made

theorem removeDirectory_eq_ok
    (made : mounted.removeDirectory path = .ok plan) :
    mounted.root.lookup path = .ok Tree.empty
      ∧ ∃ root, mounted.root.remove path = .ok root
        ∧ plan = mounted.storing root () := by
  obtain ⟨tree, found, made⟩ := bind_eq_ok_iff.mp made
  split at made
  · nomatch made
  · nomatch made
  · obtain ⟨root, remove, made⟩ := bind_eq_ok_iff.mp made
    cases made
    exact ⟨found, root, remove, rfl⟩

theorem unlink_eq_ok (made : mounted.unlink path = .ok plan) :
    ∃ data, mounted.root.lookup path = .ok (.file data)
      ∧ ∃ root, mounted.root.remove path = .ok root
        ∧ plan = mounted.storing root () := by
  obtain ⟨tree, found, made⟩ := bind_eq_ok_iff.mp made
  cases tree with
  | directory entries => nomatch made
  | file data =>
    obtain ⟨root, remove, made⟩ := bind_eq_ok_iff.mp made
    cases made
    exact ⟨data, found, root, remove, rfl⟩

/-- The open files after a move, each under the number that it had. -/
def moveHandles (source target : List String) (handles : Keyed FileId Handle) :
    Keyed FileId Handle :=
  handles.map fun (file, handle) =>
    (file, { handle with path := Mounted.moved source target handle.path })

theorem keys_moveHandles (source target : List String)
    (handles : Keyed FileId Handle) :
    Keyed.keys (moveHandles source target handles) = Keyed.keys handles := by
  rw [Keyed.keys, moveHandles, List.map_map]
  rfl

/-- What a plan for a move has found and edited. -/
inductive Carries (source target : List String) (mounted : Mounted) :
    Plan Unit → Prop where
  /-- Something is moved to where it is. -/
  | stay {tree : Tree} (found : mounted.root.lookup source = .ok tree)
    (same : source = target) :
    Carries source target mounted (mounted.keeping ())
  /-- What is at the source is taken out and put in at the target, and the
  open files go along. -/
  | move {tree without root : Tree}
    (found : mounted.root.lookup source = .ok tree)
    (different : source ≠ target) (outside : ¬ source <+: target)
    (allowed : Mounted.mayReplace tree (mounted.root.lookup target) = .ok ())
    (remove : mounted.root.remove source = .ok without)
    (put : without.put target tree = .ok root) :
    Carries source target mounted
      (Mounted.storing
        { mounted with handles := moveHandles source target mounted.handles }
        root ())

theorem rename_eq_ok {source target : List String}
    (made : mounted.rename source target = .ok plan) :
    Carries source target mounted plan := by
  obtain ⟨tree, found, made⟩ := bind_eq_ok_iff.mp made
  split at made
  · next same =>
    cases made
    exact .stay found same
  · next different =>
    split at made
    · cases made
    · next outside =>
      obtain ⟨_, allowed, made⟩ := bind_eq_ok_iff.mp made
      obtain ⟨without, remove, made⟩ := bind_eq_ok_iff.mp made
      obtain ⟨root, put, made⟩ := bind_eq_ok_iff.mp made
      cases made
      exact .move found different
        (fun prefixed => outside (List.isPrefixOf_iff_prefix.mpr prefixed))
        allowed remove put

end

/-! ### Plans from a well-formed directory -/

section

variable {α : Type} {mounted : Mounted} {path : List String}

/-- The names on a path that a text names can be stored. -/
theorem storable_of_names {text : String}
    (named : Volume.names text = .ok path) :
    ∀ name ∈ path, Storable name := by
  -- A slash is put in front of a text that has none, so there is no way up.
  have absolute : Path.isAbsolute
      (if Path.isAbsolute text then text else "/" ++ text) = true := by
    by_cases own : Path.isAbsolute text = true
    · rw [if_pos own]
      exact own
    · rw [if_neg own]
      simp [Path.isAbsolute]
  rw [Volume.names] at named
  generalize (if Path.isAbsolute text then text else "/" ++ text) = whole
    at named absolute
  have reduced : Reduced ⟨true, (Path.normalForm whole).names⟩ := by
    rw [← absolute]
    exact reduced_normalForm whole
  split at named
  · cases named
  · next short =>
    cases named
    intro name member
    have fits : ¬ maxNameLength < name.utf8ByteSize := by
      intro long
      exact short (List.any_eq_true.mpr ⟨name, member, decide_eq_true long⟩)
    exact ⟨isName_of_reduced reduced name member, Nat.not_lt.mp fits⟩

/-- A plan for another well-formed directory, on the same device. If it
stores nothing, for the same one. -/
structure Follows (mounted : Mounted) (plan : Plan α) : Prop where
  geometry : plan.next.geometry = mounted.geometry
  isRoot : IsRoot plan.next.root
  kept : plan.stores = false → plan.next.root = mounted.root

theorem follows_openFile {flags : OpenFlags} {plan : Plan FileId}
    (isRoot : IsRoot mounted.root)
    (storable : ∀ name ∈ path, Storable name)
    (made : mounted.openFile path flags = .ok plan) :
    Follows mounted plan := by
  -- All that is ever put into the tree is an empty file.
  have emptied {plan : Plan FileId}
      (made : (do
        let root ← mounted.root.put path (.file [])
        return (mounted.opening path flags).storing root mounted.nextId)
        = Except.ok plan) : Follows mounted plan := by
    obtain ⟨root, put, made⟩ := bind_eq_ok_iff.mp made
    cases made
    exact ⟨rfl, isRoot_put isRoot.formed (wellFormed_file _) storable put,
      nofun⟩
  rw [Mounted.openFile] at made
  split at made
  · nomatch made
  · split at made
    · nomatch made
    · split at made
      · exact emptied made
      · cases made
        exact ⟨rfl, isRoot, fun _ => rfl⟩
  · split at made
    · exact emptied made
    · nomatch made
  · nomatch made

theorem follows_read {file : FileId} {length : Nat} {position : Option Nat}
    {plan : Plan Bytes} (isRoot : IsRoot mounted.root)
    (made : mounted.read file length position = .ok plan) :
    Follows mounted plan := by
  obtain ⟨handle, _, made⟩ := bind_eq_ok_iff.mp made
  split at made
  · nomatch made
  · obtain ⟨tree, _, made⟩ := bind_eq_ok_iff.mp made
    cases tree with
    | directory entries => nomatch made
    | file data =>
      cases made
      exact ⟨rfl, isRoot, fun _ => rfl⟩

theorem follows_write {file : FileId} {handle : Handle} {old data : Bytes}
    {start length capacity : Nat} {position : Option Nat} {plan : Plan Nat}
    (isRoot : IsRoot mounted.root)
    (target : mounted.target handle length position capacity
      = .ok (old, start))
    (made : mounted.write file handle old start data = .ok plan) :
    Follows mounted plan := by
  -- The path of the file leads through names that are in the tree.
  obtain ⟨tree, found, _⟩ := bind_eq_ok_iff.mp target
  have storable := storable_of_lookup isRoot.formed found
  obtain ⟨root, put, made⟩ := bind_eq_ok_iff.mp made
  cases made
  exact ⟨rfl, isRoot_put isRoot.formed (wellFormed_file _) storable put,
    nofun⟩

theorem follows_close {file : FileId} {plan : Plan Unit}
    (isRoot : IsRoot mounted.root)
    (made : mounted.close file = .ok plan) : Follows mounted plan := by
  obtain ⟨handle, _, made⟩ := bind_eq_ok_iff.mp made
  cases made
  exact ⟨rfl, isRoot, fun _ => rfl⟩

theorem follows_stat {plan : Plan Stat} (isRoot : IsRoot mounted.root)
    (made : mounted.stat path = .ok plan) : Follows mounted plan := by
  obtain ⟨tree, _, made⟩ := bind_eq_ok_iff.mp made
  cases made
  exact ⟨rfl, isRoot, fun _ => rfl⟩

theorem follows_list {plan : Plan (List String)}
    (isRoot : IsRoot mounted.root)
    (made : mounted.list path = .ok plan) : Follows mounted plan := by
  obtain ⟨tree, _, made⟩ := bind_eq_ok_iff.mp made
  cases tree with
  | file data => nomatch made
  | directory entries =>
    cases made
    exact ⟨rfl, isRoot, fun _ => rfl⟩

theorem follows_makeDirectory {plan : Plan Unit}
    (isRoot : IsRoot mounted.root)
    (storable : ∀ name ∈ path, Storable name)
    (made : mounted.makeDirectory path = .ok plan) :
    Follows mounted plan := by
  obtain ⟨_, root, put, rfl⟩ := makeDirectory_eq_ok made
  exact ⟨rfl, isRoot_put isRoot.formed wellFormed_empty storable put, nofun⟩

theorem follows_removeDirectory {plan : Plan Unit}
    (isRoot : IsRoot mounted.root)
    (made : mounted.removeDirectory path = .ok plan) :
    Follows mounted plan := by
  obtain ⟨_, root, remove, rfl⟩ := removeDirectory_eq_ok made
  exact ⟨rfl, isRoot_remove isRoot.formed remove, nofun⟩

theorem follows_unlink {plan : Plan Unit} (isRoot : IsRoot mounted.root)
    (made : mounted.unlink path = .ok plan) : Follows mounted plan := by
  obtain ⟨_, _, root, remove, rfl⟩ := unlink_eq_ok made
  exact ⟨rfl, isRoot_remove isRoot.formed remove, nofun⟩

theorem follows_rename {source target : List String} {plan : Plan Unit}
    (isRoot : IsRoot mounted.root)
    (storable : ∀ name ∈ target, Storable name)
    (made : mounted.rename source target = .ok plan) :
    Follows mounted plan := by
  cases rename_eq_ok made with
  | stay => exact ⟨rfl, isRoot, fun _ => rfl⟩
  | move found _ _ _ remove put =>
    -- What is moved was in the tree before.
    have good := wellFormed_of_lookup isRoot.formed found
    have formed := wellFormed_remove isRoot.formed remove
    exact ⟨rfl, isRoot_put formed good storable put, nofun⟩

theorem current_eq_ok_iff {volume : Volume} :
    current volume = .ok mounted ↔ volume.mounted = some mounted := by
  rw [current]
  cases volume.mounted <;> simp

/-- A plan that is made of what is mounted follows it, if all plans made
in this way do. -/
theorem follows_of_current {volume : Volume} {plan : Plan α}
    {make : Mounted → Except Fault (Plan α)}
    (made : (current volume >>= make) = .ok plan)
    (follows : ∀ mounted, IsRoot mounted.root → make mounted = .ok plan →
      Follows mounted plan) :
    ∃ mounted, volume.mounted = some mounted
      ∧ (IsRoot mounted.root → Follows mounted plan) := by
  obtain ⟨mounted, known, made⟩ := bind_eq_ok_iff.mp made
  have isMounted := current_eq_ok_iff.mp known
  exact ⟨mounted, isMounted, fun isRoot => follows mounted isRoot made⟩

/-- A plan for a request is made for what is mounted, and follows it. -/
theorem follows_planned {volume : Volume} {request : Request α}
    {plan : Plan α} (made : planned volume request = .ok plan) :
    ∃ mounted, volume.mounted = some mounted
      ∧ (IsRoot mounted.root → Follows mounted plan) := by
  cases request with
  | mount | unmount | format => cases made
  | openFile path flags permissions =>
    rw [planned] at made
    split at made
    · cases made
    · obtain ⟨path, named, made⟩ := bind_eq_ok_iff.mp made
      have storable := storable_of_names named
      exact follows_of_current made fun _ isRoot made =>
        follows_openFile isRoot storable made
  | read file length position =>
    exact follows_of_current made fun _ => follows_read
  | write file data position =>
    refine follows_of_current made ?_
    intro mounted isRoot made
    obtain ⟨handle, _, made⟩ := bind_eq_ok_iff.mp made
    -- Writing nothing leaves the tree alone.
    split at made
    · cases made
      exact ⟨rfl, isRoot, fun _ => rfl⟩
    · obtain ⟨⟨old, start⟩, target, made⟩ := bind_eq_ok_iff.mp made
      exact follows_write isRoot target made
  | close file => exact follows_of_current made fun _ => follows_close
  | stat path =>
    obtain ⟨path, _, made⟩ := bind_eq_ok_iff.mp made
    exact follows_of_current made fun _ => follows_stat
  | makeDirectory path =>
    obtain ⟨path, named, made⟩ := bind_eq_ok_iff.mp made
    have storable := storable_of_names named
    exact follows_of_current made fun _ isRoot made =>
      follows_makeDirectory isRoot storable made
  | removeDirectory path =>
    obtain ⟨path, _, made⟩ := bind_eq_ok_iff.mp made
    split at made
    · cases made
    · exact follows_of_current made fun _ => follows_removeDirectory
  | list path =>
    obtain ⟨path, _, made⟩ := bind_eq_ok_iff.mp made
    exact follows_of_current made fun _ => follows_list
  | rename source target =>
    obtain ⟨source, _, made⟩ := bind_eq_ok_iff.mp made
    obtain ⟨target, named, made⟩ := bind_eq_ok_iff.mp made
    have storable := storable_of_names named
    split at made
    · cases made
    · exact follows_of_current made fun _ isRoot made =>
        follows_rename isRoot storable made
  | unlink path =>
    obtain ⟨path, _, made⟩ := bind_eq_ok_iff.mp made
    exact follows_of_current made fun _ => follows_unlink

end

end MountSpace.Proofs.Volumes
