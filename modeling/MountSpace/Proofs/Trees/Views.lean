import MountSpace.Proofs.Trees.Lookups

/-!
# `MountSpace.Proofs.Trees.Views`: what is seen of a tree

`viewAt` is a tree as all that can be seen of it: the contents of the file
or the names in the directory at each path, or why there is nothing.

`viewAt_put_file`: when a file takes the place of another one, that is seen
at its path and nowhere else.
-/

set_option autoImplicit false

namespace MountSpace.Proofs.Trees

/-- What a node shows. -/
inductive View where
  | file (contents : Bytes)
  | directory (names : List String)

/-- A file shows its contents, and a directory the names in it. -/
def View.ofTree : Tree → View
  | .file data => .file data
  | .directory entries => .directory (Keyed.keys entries)

/-- What is seen at a path. -/
def viewAt (root : Tree) (path : List String) : Except Fault View :=
  (root.lookup path).map View.ofTree

variable {entries others : Keyed String Tree} {root after : Tree}
  {path wanted : List String} {old new : Bytes}

/-- Two directories in order with the same names list them alike. -/
theorem keys_eq_of_mem_iff (sorted : Keyed.Sorted entries)
    (sortedOther : Keyed.Sorted others)
    (same : ∀ name, name ∈ Keyed.keys entries ↔ name ∈ Keyed.keys others) :
    Keyed.keys entries = Keyed.keys others := by
  have perm : (Keyed.keys entries).Perm (Keyed.keys others) :=
    (List.perm_ext_iff_of_nodup sorted.nodup sortedOther.nodup).mpr
      fun name => same name
  exact List.Perm.eq_of_pairwise
    (fun _ _ _ _ below above => absurd above (Std.Asymm.asymm _ _ below))
    sorted sortedOther perm

/-- A directory above the path of an edit shows the same names, if there is
a node at the path before and after. -/
theorem Edited.view_above {below : List String → Except Fault Tree}
    (edited : Edited path below root after) (formed : root.WellFormed)
    (formedAfter : after.WellFormed) (before : Present root path)
    (since : Present after path) (above : wanted <+: path)
    (different : wanted ≠ path) : viewAt after wanted = viewAt root wanted := by
  obtain ⟨⟨entries, found⟩, ⟨others, foundAfter⟩⟩ :=
    edited.above wanted above different
  have sorted := (wellFormed_directory_iff.mp
    (wellFormed_of_lookup formed found)).1
  have sortedAfter := (wellFormed_directory_iff.mp
    (wellFormed_of_lookup formedAfter foundAfter)).1
  have names : Keyed.keys others = Keyed.keys entries := by
    refine keys_eq_of_mem_iff sortedAfter sorted fun name => ?_
    rw [mem_keys_iff_present found, mem_keys_iff_present foundAfter]
    -- The edit can add or take away one name only, the last one of its path.
    by_cases last : path = wanted ++ [name]
    · rw [← last]
      exact ⟨fun _ => before, fun _ => since⟩
    · refine edited.present_iff fun prefixed => ?_
      rcases List.prefix_concat_iff.mp prefixed with same | shorter
      · exact last same
      · exact different (above.eq_of_length_le shorter.length_le)
  rw [viewAt, viewAt, found, foundAfter]
  show Except.ok (View.directory _) = Except.ok (View.directory _)
  rw [names]

/-- A file in the place of another one is seen at its path only. -/
theorem viewAt_put_file (formed : root.WellFormed)
    (found : root.lookup path = .ok (.file old))
    (put : root.put path (.file new) = .ok after) :
    viewAt after wanted
      = if wanted = path then .ok (.file new) else viewAt root wanted := by
  have there := lookup_put put
  by_cases same : wanted = path
  · rw [if_pos same, same, viewAt, there]
    rfl
  rw [if_neg same]
  by_cases below : path <+: wanted
  · -- Below a file there is nothing, whatever its contents.
    obtain ⟨rest, rfl⟩ := below
    cases rest with
    | nil => exact absurd (List.append_nil path) same
    | cons name rest =>
      rw [viewAt, viewAt, lookup_append, lookup_append, there, found]
      rfl
  by_cases above : wanted <+: path
  · have storable := storable_of_lookup formed found
    have formedAfter :=
      wellFormed_put formed (wellFormed_file new) storable put
    exact (edited_put put).view_above formed formedAfter ⟨_, found⟩
      ⟨_, there⟩ above same
  · rw [viewAt, viewAt, (edited_put put).apart wanted ⟨below, above⟩]

end MountSpace.Proofs.Trees
