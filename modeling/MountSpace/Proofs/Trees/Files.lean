import MountSpace.Proofs.Trees.Lookups

/-!
# `MountSpace.Proofs.Trees.Files`: the files of a tree

`fileAt` is a tree as its files: the contents of the file at each path, if
there is one. An edit changes what is at its path or below it, and nothing
else.

* `fileAt_put`, `fileAt_remove`: the files after each of the two edits.
* `fileAt_replace`: a file that is put at a path changes one path only.
-/

set_option autoImplicit false

namespace MountSpace.Proofs.Trees

/-- The contents of the file at a path, if there is one. -/
def fileAt (root : Tree) (path : List String) : Option Bytes :=
  match root.lookup path with
  | .ok (.file data) => some data
  | _ => none

section

variable {root tree after : Tree} {path more : List String} {data : Bytes}

theorem fileAt_eq_some_iff :
    fileAt root path = some data ↔ root.lookup path = .ok (.file data) := by
  rw [fileAt]
  split
  · next found => simp [found]
  · next other => exact ⟨nofun, fun found => (other _ found).elim⟩

/-- No file is below a file. -/
theorem fileAt_file : fileAt (.file data) path
    = if path = [] then some data else none := by
  cases path <;> rfl

/-- What is below a path is in the tree at the path. -/
theorem fileAt_append (found : root.lookup path = .ok tree) :
    fileAt root (path ++ more) = fileAt tree more := by
  rw [fileAt, lookup_append, found]
  rfl

theorem fileAt_append_of_error {fault : Fault}
    (missing : root.lookup path = .error fault) :
    fileAt root (path ++ more) = none := by
  rw [fileAt, lookup_append, missing]
  rfl

/-! ### Edits -/

/-- An edit at a path leaves all files alone that are not at the path or
below it. -/
theorem Edited.fileAt {below : List String → Except Fault Tree}
    (edited : Edited path below root after) {wanted : List String}
    (outside : ¬ path <+: wanted) :
    fileAt after wanted = fileAt root wanted := by
  by_cases above : wanted <+: path
  · -- There are directories on the way, and no files.
    have different : wanted ≠ path := by
      rintro rfl
      exact outside above
    obtain ⟨⟨_, before⟩, ⟨_, since⟩⟩ := edited.above wanted above different
    rw [Trees.fileAt, Trees.fileAt, before, since]
  · rw [Trees.fileAt, Trees.fileAt, edited.apart wanted ⟨outside, above⟩]

/-- The files of a tree that is put at a path are below the path, and all
other files stay. -/
theorem fileAt_put (put : root.put path tree = .ok after) :
    (∀ more, fileAt after (path ++ more) = fileAt tree more)
      ∧ ∀ wanted, ¬ path <+: wanted →
        fileAt after wanted = fileAt root wanted := by
  have edited := edited_put put
  refine ⟨fun more => ?_, fun wanted => edited.fileAt⟩
  rw [fileAt, edited.within more]
  rfl

/-- No file is at a path or below it when that has been taken out, and all
other files stay. -/
theorem fileAt_remove (formed : root.WellFormed)
    (remove : root.remove path = .ok after) :
    (∀ more, fileAt after (path ++ more) = none)
      ∧ ∀ wanted, ¬ path <+: wanted →
        fileAt after wanted = fileAt root wanted := by
  have edited := edited_remove formed remove
  refine ⟨fun more => ?_, fun wanted => edited.fileAt⟩
  rw [fileAt, edited.within more]

/-- A file takes the place of another one, or of nothing, without touching
a third one. -/
theorem fileAt_replace (put : root.put path (.file data) = .ok after)
    (before : ∀ name rest, fileAt root (path ++ name :: rest) = none)
    (wanted : List String) :
    fileAt after wanted
      = if wanted = path then some data else fileAt root wanted := by
  obtain ⟨below, others⟩ := fileAt_put put
  by_cases prefixed : path <+: wanted
  · obtain ⟨more, rfl⟩ := prefixed
    rw [below, fileAt_file]
    cases more with
    | nil => simp
    | cons name rest => simp [before]
  · have different : wanted ≠ path := by
      rintro rfl
      exact prefixed (List.prefix_refl _)
    rw [others wanted prefixed, if_neg different]

end

end MountSpace.Proofs.Trees
