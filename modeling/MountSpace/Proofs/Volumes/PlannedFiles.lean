import MountSpace.Proofs.Trees.Files
import MountSpace.Proofs.Volumes.PlannedTrees

/-!
# `MountSpace.Proofs.Volumes.PlannedFiles`: the files of plans

What the plan for a request does to the files of a tree (`fileAt`), and to
the paths of the files that are open.

* `opens_openFile`: to open a file is to make it, if it is missing, and to
  enter one more open file under the next number.
* `files_unlink`, `moves_rename`: to unlink takes one file away, and a move
  takes files and open files along.
* `untouched_planned`: all other requests leave all files where they are,
  and open files at their paths.
* `read_eq_ok`, `write_eq_ok`: a transfer reads or changes the file
  at the path of the open file, and no other one.
-/

set_option autoImplicit false

namespace MountSpace.Proofs.Volumes

open Effects Trees
open Mounted (moved)

section

variable {α : Type} {mounted next : Mounted} {path source target : List String}

/-! ### Requests that touch no file -/

/-- The same files are at the same paths, with any contents, and open files
are where they were. -/
structure Untouched (mounted next : Mounted) : Prop where
  files : ∀ path, (fileAt next.root path).isSome
    = (fileAt mounted.root path).isSome
  handles : ∀ file handle, (file, handle) ∈ next.handles →
    ∃ old, (file, old) ∈ mounted.handles ∧ handle.path = old.path
  nextId : next.nextId = mounted.nextId

theorem untouched_self : Untouched mounted mounted :=
  ⟨fun _ => rfl, fun _ handle member => ⟨handle, member, rfl⟩, rfl⟩

/-- A new tree with files at the same paths is all that changes. -/
theorem untouched_of_files {root : Tree}
    (files : ∀ path, (fileAt root path).isSome
      = (fileAt mounted.root path).isSome) :
    Untouched mounted { mounted with root } :=
  ⟨files, fun _ handle member => ⟨handle, member, rfl⟩, rfl⟩

theorem mem_of_handle {file : FileId} {handle : Handle}
    (found : mounted.handle file = .ok handle) :
    (file, handle) ∈ mounted.handles := by
  rw [Mounted.handle] at found
  split at found
  · next entry =>
    cases found
    exact Keyed.mem_of_get?_eq_some entry
  · nomatch found

/-- An open file goes on at another place of the same file. -/
theorem Untouched.setHandle (untouched : Untouched mounted next)
    {file : FileId} {handle : Handle} (member : (file, handle) ∈ mounted.handles)
    (cursor : Nat) (same : next.handles = mounted.handles) :
    Untouched mounted (next.setHandle file { handle with cursor }) := by
  refine ⟨untouched.files, fun other found inside => ?_, untouched.nextId⟩
  rw [Mounted.setHandle, same] at inside
  cases Keyed.mem_of_mem_insert inside with
  | inl new =>
    cases new
    exact ⟨handle, member, rfl⟩
  | inr old => exact ⟨found, old, rfl⟩

/-! ### Transfers -/

/-- A read answers a part of the file at the path of the open file. -/
theorem read_eq_ok {file : FileId} {length : Nat} {position : Option Nat}
    {plan : Plan Bytes}
    (made : mounted.read file length position = .ok plan) :
    ∃ handle data start, mounted.handle file = .ok handle
      ∧ fileAt mounted.root handle.path = some data
      ∧ start = min (position.getD handle.cursor) data.length
      ∧ plan = (mounted.setHandle file { handle with
          cursor := start + (data.window start length).length }).keeping
        (data.window start length) := by
  obtain ⟨handle, opened, made⟩ := bind_eq_ok_iff.mp made
  split at made
  · nomatch made
  · obtain ⟨tree, found, made⟩ := bind_eq_ok_iff.mp made
    cases tree with
    | directory entries => nomatch made
    | file data =>
      cases made
      exact ⟨handle, data, _, opened, fileAt_eq_some_iff.mpr found, rfl, rfl⟩

theorem writableHandle_eq_ok {file : FileId} {handle : Handle}
    (found : mounted.writableHandle file = .ok handle) :
    mounted.handle file = .ok handle := by
  obtain ⟨other, opened, found⟩ := bind_eq_ok_iff.mp found
  split at found
  · nomatch found
  · cases found
    exact opened

/-- No file is below a path at which there is one. -/
theorem fileAt_below_file {root : Tree} {data : Bytes}
    (found : fileAt root path = some data) (name : String)
    (rest : List String) : fileAt root (path ++ name :: rest) = none := by
  rw [fileAt_append (fileAt_eq_some_iff.mp found), fileAt_file]
  rfl

/-- What is written changes the file at the path of the open file, and no
other one. -/
theorem write_eq_ok {file : FileId} {handle : Handle} {old data : Bytes}
    {start : Nat} {plan : Plan Nat}
    (found : fileAt mounted.root handle.path = some old)
    (made : mounted.write file handle old start data = .ok plan) :
    ∃ root, plan = (({ mounted with root } : Mounted).setHandle file
        { handle with cursor := start + data.length }).storing root
          data.length
      ∧ ∀ path, fileAt root path = if path = handle.path
        then some (old.splice start data) else fileAt mounted.root path := by
  obtain ⟨root, put, made⟩ := bind_eq_ok_iff.mp made
  cases made
  exact ⟨root, rfl, fileAt_replace put (fileAt_below_file found)⟩

/-! ### Directories -/

theorem files_makeDirectory {plan : Plan Unit}
    (made : mounted.makeDirectory path = .ok plan) :
    Untouched mounted plan.next := by
  obtain ⟨missing, root, put, rfl⟩ := makeDirectory_eq_ok made
  obtain ⟨below, others⟩ := fileAt_put put
  refine untouched_of_files fun wanted => ?_
  -- There was nothing at the path, and now there is an empty directory.
  by_cases prefixed : path <+: wanted
  · obtain ⟨more, rfl⟩ := prefixed
    rw [below, fileAt_append_of_error missing]
    cases more <;> rfl
  · rw [others wanted prefixed]

theorem files_removeDirectory {plan : Plan Unit}
    (isRoot : IsRoot mounted.root)
    (made : mounted.removeDirectory path = .ok plan) :
    Untouched mounted plan.next := by
  obtain ⟨found, root, remove, rfl⟩ := removeDirectory_eq_ok made
  obtain ⟨below, others⟩ := fileAt_remove isRoot.formed remove
  refine untouched_of_files fun wanted => ?_
  -- The directory was empty before.
  by_cases prefixed : path <+: wanted
  · obtain ⟨more, rfl⟩ := prefixed
    rw [below, fileAt_append found]
    cases more <;> rfl
  · rw [others wanted prefixed]

/-! ### Requests that make, take away or move files -/

/-- What opening comes to for a tree: a file that is there stays as it is
or is emptied, and one that is missing is made, as the flags ask for. -/
inductive Prepares (flags : OpenFlags) (path : List String) (root : Tree) :
    Tree → Prop where
  | kept {data : Bytes} : root.lookup path = .ok (.file data) →
    (flags.truncates = true → data = []) → Prepares flags path root root
  | emptied {data : Bytes} {next : Tree} :
    root.lookup path = .ok (.file data) → data ≠ [] →
    flags.truncates = true → root.put path (.file []) = .ok next →
    Prepares flags path root next
  | made {next : Tree} : root.lookup path = .error .notFound →
    flags.creates = true → root.put path (.file []) = .ok next →
    Prepares flags path root next

/-- Opening prepares the tree and enters an open file under the next
number. -/
theorem openFile_eq_ok {flags : OpenFlags} {plan : Plan FileId}
    (planned : mounted.openFile path flags = .ok plan) :
    plan.value = mounted.nextId
      ∧ plan.next.nextId = mounted.nextId + 1
      ∧ plan.next.handles
        = Keyed.insert mounted.handles mounted.nextId ⟨path, flags, 0⟩
      ∧ Prepares flags path mounted.root plan.next.root := by
  rw [Mounted.openFile] at planned
  split at planned
  · cases planned
  · next data found =>
    split at planned
    · cases planned
    · split at planned
      · next empties =>
        obtain ⟨root, put, planned⟩ := bind_eq_ok_iff.mp planned
        cases planned
        have asked : flags.truncates = true ∧ data ≠ [] := by
          simpa using empties
        exact ⟨rfl, rfl, rfl, .emptied found asked.2 asked.1 put⟩
      · next keeps =>
        cases planned
        have empty : flags.truncates = true → data = [] := by
          simpa using keeps
        exact ⟨rfl, rfl, rfl, .kept found empty⟩
  · next missing =>
    split at planned
    · next creates =>
      obtain ⟨root, put, planned⟩ := bind_eq_ok_iff.mp planned
      cases planned
      exact ⟨rfl, rfl, rfl, .made missing creates put⟩
    · cases planned
  · cases planned

/-- Afterwards there are the files that were there, and the one that was
asked for. -/
theorem Prepares.files {flags : OpenFlags} {root next : Tree}
    (prepares : Prepares flags path root next) (wanted : List String) :
    (fileAt next wanted).isSome
      = (decide (wanted = path) || (fileAt root wanted).isSome) := by
  cases prepares with
  | kept found =>
    by_cases same : wanted = path
    · simp [same, fileAt_eq_some_iff.mpr found]
    · simp [same]
  | emptied found _ _ put =>
    have below := fileAt_below_file (fileAt_eq_some_iff.mpr found)
    rw [fileAt_replace put below wanted]
    by_cases same : wanted = path <;> simp [same]
  | made missing _ put =>
    have below (name : String) (rest : List String) :
        fileAt root (path ++ name :: rest) = none :=
      fileAt_append_of_error missing
    rw [fileAt_replace put below wanted]
    by_cases same : wanted = path <;> simp [same]

/-- Opening makes the file if it is missing, and enters an open file at its
path. -/
theorem opens_openFile {flags : OpenFlags} {plan : Plan FileId}
    (made : mounted.openFile path flags = .ok plan) :
    plan.value = mounted.nextId
      ∧ plan.next.nextId = mounted.nextId + 1
      ∧ plan.next.handles
        = Keyed.insert mounted.handles mounted.nextId ⟨path, flags, 0⟩
      ∧ ∀ wanted, (fileAt plan.next.root wanted).isSome
        = (decide (wanted = path)
          || (fileAt mounted.root wanted).isSome) := by
  obtain ⟨value, next, handles, prepares⟩ := openFile_eq_ok made
  exact ⟨value, next, handles, prepares.files⟩

/-- To unlink takes away the one file at the path. -/
theorem files_unlink {plan : Plan Unit} (isRoot : IsRoot mounted.root)
    (made : mounted.unlink path = .ok plan) :
    plan.next.handles = mounted.handles
      ∧ plan.next.nextId = mounted.nextId
      ∧ ∀ wanted, (fileAt plan.next.root wanted).isSome
        = (decide (wanted ≠ path) && (fileAt mounted.root wanted).isSome) := by
  obtain ⟨data, found, root, remove, rfl⟩ := unlink_eq_ok made
  obtain ⟨below, others⟩ := fileAt_remove isRoot.formed remove
  refine ⟨rfl, rfl, fun wanted => ?_⟩
  show (fileAt root wanted).isSome = _
  by_cases prefixed : path <+: wanted
  · obtain ⟨more, rfl⟩ := prefixed
    rw [below]
    cases more with
    | nil => simp
    | cons name rest =>
      rw [fileAt_below_file (fileAt_eq_some_iff.mpr found)]
      simp
  · have different : wanted ≠ path := by
      rintro rfl
      exact prefixed (List.prefix_refl _)
    rw [others wanted prefixed]
    simp [different]

/-- Where the file at a path comes from in a move of `source` to
`target`. -/
def movedFrom (source target path : List String) : Option (List String) :=
  match target.isPrefixOf? path with
  | some rest => some (source ++ rest)
  | none => if source <+: path then none else some path

theorem movedFrom_append (rest : List String) :
    movedFrom source target (target ++ rest) = some (source ++ rest) := by
  rw [movedFrom, List.isPrefixOf?_eq_some_iff_append_eq.mpr rfl]

theorem movedFrom_of_apart (apart : ¬ target <+: path) :
    movedFrom source target path
      = if source <+: path then none else some path := by
  rw [movedFrom]
  split
  · next rest found =>
    exact absurd ⟨rest, List.isPrefixOf?_eq_some_iff_append_eq.mp found⟩ apart
  · rfl

theorem moved_append (rest : List String) :
    moved source target (source ++ rest) = target ++ rest := by
  rw [moved, List.isPrefixOf?_eq_some_iff_append_eq.mpr rfl]

theorem moved_of_apart (apart : ¬ source <+: path) :
    moved source target path = path := by
  rw [moved]
  split
  · next rest found =>
    exact absurd ⟨rest, List.isPrefixOf?_eq_some_iff_append_eq.mp found⟩ apart
  · rfl

/-- A move to where something is already changes nothing. -/
theorem movedFrom_self (path : List String) :
    movedFrom source source path = some path := by
  by_cases prefixed : source <+: path
  · obtain ⟨rest, rfl⟩ := prefixed
    exact movedFrom_append rest
  · rw [movedFrom_of_apart prefixed, if_neg prefixed]

theorem moved_self (path : List String) :
    moved source source path = path := by
  by_cases prefixed : source <+: path
  · obtain ⟨rest, rfl⟩ := prefixed
    exact moved_append rest
  · exact moved_of_apart prefixed

/-- Files move with the directories above them, and open files move with
their files. What was at the target before is gone. -/
theorem moves_rename {plan : Plan Unit} (isRoot : IsRoot mounted.root)
    (made : mounted.rename source target = .ok plan) :
    plan.next.nextId = mounted.nextId
      ∧ (∀ file handle, (file, handle) ∈ plan.next.handles →
        ∃ old, (file, old) ∈ mounted.handles
          ∧ handle.path = moved source target old.path)
      ∧ ∀ wanted, fileAt plan.next.root wanted
        = (movedFrom source target wanted).bind (fileAt mounted.root) := by
  cases rename_eq_ok made with
  | stay _ same =>
    refine ⟨rfl, fun file handle member => ⟨handle, member, ?_⟩, ?_⟩
    · rw [same, moved_self]
    · intro wanted
      rw [same, movedFrom_self]
      rfl
  | @move tree without root found _ _ _ remove put =>
    refine ⟨rfl, fun file handle member => ?_, fun wanted => ?_⟩
    · obtain ⟨⟨other, old⟩, listed, same⟩ := List.mem_map.mp member
      cases same
      exact ⟨old, listed, rfl⟩
    · obtain ⟨gone, stay⟩ := fileAt_remove isRoot.formed remove
      obtain ⟨below, others⟩ := fileAt_put put
      show fileAt root wanted = _
      by_cases prefixed : target <+: wanted
      · obtain ⟨rest, rfl⟩ := prefixed
        rw [below, movedFrom_append, Option.bind_some, fileAt_append found]
      · rw [others wanted prefixed, movedFrom_of_apart prefixed]
        by_cases left : source <+: wanted
        · obtain ⟨rest, rfl⟩ := left
          rw [gone, if_pos (List.prefix_append _ _)]
          rfl
        · rw [stay wanted left, if_neg left]
          rfl

/-! ### Every other request -/

/-- Requests that can make, take away or move a file. -/
def Rearranges : Request α → Prop
  | .openFile .. | .unlink .. | .rename .. => True
  | _ => False

/-- All other requests leave the files where they are. -/
theorem untouched_planned {request : Request α} {plan : Plan α}
    (isRoot : IsRoot mounted.root) (still : ¬ Rearranges request)
    (made : planned ⟨some mounted⟩ request = .ok plan) :
    Untouched mounted plan.next := by
  cases request with
  | mount | unmount | format => cases made
  | openFile | unlink | rename => exact absurd trivial still
  | read file length position =>
    obtain ⟨handle, data, start, opened, _, _, rfl⟩ := read_eq_ok made
    exact untouched_self.setHandle (mem_of_handle opened) _ rfl
  | write file data position =>
    obtain ⟨_, known, made⟩ := bind_eq_ok_iff.mp made
    cases known
    obtain ⟨handle, writable, made⟩ := bind_eq_ok_iff.mp made
    have member := mem_of_handle (writableHandle_eq_ok writable)
    split at made
    · cases made
      exact untouched_self.setHandle member _ rfl
    · obtain ⟨⟨old, start⟩, target, made⟩ := bind_eq_ok_iff.mp made
      have found := fileAt_eq_some_iff.mpr (target_eq_ok target).1
      obtain ⟨root, rfl, files⟩ := write_eq_ok found made
      have same : Untouched mounted { mounted with root } := by
        refine untouched_of_files fun path => ?_
        rw [files]
        by_cases here : path = handle.path
        · simp [here, found]
        · simp [here]
      exact same.setHandle member _ rfl
  | close file =>
    obtain ⟨_, known, made⟩ := bind_eq_ok_iff.mp made
    cases known
    obtain ⟨handle, _, made⟩ := bind_eq_ok_iff.mp made
    cases made
    exact ⟨fun _ => rfl, fun other handle member =>
      ⟨handle, Keyed.mem_of_mem_erase member, rfl⟩, rfl⟩
  | stat path =>
    obtain ⟨path, _, made⟩ := bind_eq_ok_iff.mp made
    obtain ⟨_, known, made⟩ := bind_eq_ok_iff.mp made
    cases known
    obtain ⟨tree, _, made⟩ := bind_eq_ok_iff.mp made
    cases made
    exact untouched_self
  | makeDirectory path =>
    obtain ⟨path, _, made⟩ := bind_eq_ok_iff.mp made
    exact files_makeDirectory made
  | removeDirectory path =>
    obtain ⟨path, _, made⟩ := bind_eq_ok_iff.mp made
    split at made
    · cases made
    · exact files_removeDirectory isRoot made
  | list path =>
    obtain ⟨path, _, made⟩ := bind_eq_ok_iff.mp made
    obtain ⟨_, known, made⟩ := bind_eq_ok_iff.mp made
    cases known
    obtain ⟨tree, _, made⟩ := bind_eq_ok_iff.mp made
    cases tree with
    | file data => nomatch made
    | directory entries =>
      cases made
      exact untouched_self

end

end MountSpace.Proofs.Volumes
