import MountSpace.Proofs.Paths.Walks

/-!
# `MountSpace.Proofs.Paths.Children`: directories and the names in them

An absolute path in normal form, other than the root, is a name in a
directory, and it is the only path that is that name in that directory.

* `parent_ofNames`, `fileName_ofNames`: the directory has all names but
  the last, which is the file name.
* `child_ofNames`: putting a name behind a directory adds it to the names.
* `segments_parent`, `eq_of_parent_eq`: the same of paths in normal form.
* `child_parent`, `child_isNormal`: taking the name off and putting it back
  undo each other. `resolve_eq_child`: whoever is in the directory gets to
  the path by the name alone.
-/

set_option autoImplicit false

namespace MountSpace.Proofs.Paths

open MountSpace.Path
open MountSpace.Tree (IsName)

section

variable {names : List String}

/-- The root is the directory of the root as well. -/
theorem parent_ofNames (fit : ∀ name ∈ names, IsName name) :
    parent (ofNames names) = ofNames names.dropLast := by
  have form : normalForm (ofNames names) = ⟨true, names⟩ :=
    normalForm_render (reduced_of_isName fit)
  simp only [parent, form]
  cases names.dropLast with
  | nil => rfl
  | cons name rest => rfl

theorem fileName_ofNames (fit : ∀ name ∈ names, IsName name) :
    fileName (ofNames names) = names.getLast? := by
  rw [fileName, segments_ofNames fit]

theorem ofNames_eq_root_iff (fit : ∀ name ∈ names, IsName name) :
    ofNames names = "/" ↔ names = [] := by
  constructor
  · intro same
    rw [← segments_ofNames fit, same]
    decide
  · rintro rfl
    rfl

theorem child_ofNames (fit : ∀ name ∈ names, IsName name)
    (name : String) : child (ofNames names) name = ofNames (names ++ [name]) := by
  have more : names ++ [name] ≠ [] := by simp
  apply String.toList_inj.mp
  rw [toList_ofNames more, written_append, child]
  by_cases root : ofNames names = "/"
  · rw [if_pos root, (ofNames_eq_root_iff fit).mp root]
    simp [written]
  · have some : names ≠ [] := fun none =>
      root ((ofNames_eq_root_iff fit).mpr none)
    rw [if_neg root]
    simp [toList_ofNames some, written]

end

section

variable {path other directory name : String}

theorem IsNormal.parent (normal : IsNormal path) :
    IsNormal (parent path) := by
  obtain ⟨names, fit, rfl⟩ := isNormal_iff.mp normal
  rw [parent_ofNames fit]
  exact isNormal_ofNames fun name member =>
    fit name (List.dropLast_subset names member)

/-- A path other than the root is a name in a directory. -/
theorem segments_parent (normal : IsNormal path) (below : path ≠ "/") :
    ∃ name, fileName path = some name ∧ IsName name
      ∧ segments path = segments (Path.parent path) ++ [name] := by
  have isName := normal.isName
  obtain ⟨names, fit, rfl⟩ := isNormal_iff.mp normal
  have some : names ≠ [] := fun none =>
    below ((ofNames_eq_root_iff fit).mpr none)
  have fitAbove : ∀ name ∈ names.dropLast, IsName name := fun name member =>
    fit name (List.dropLast_subset names member)
  refine ⟨names.getLast some, ?_, fit _ (List.getLast_mem some), ?_⟩
  · rw [fileName_ofNames fit, List.getLast?_eq_getLast_of_ne_nil some]
  · rw [parent_ofNames fit, segments_ofNames fit, segments_ofNames fitAbove,
      List.dropLast_append_getLast some]

/-- Two paths that are the same name in the same directory are one. -/
theorem eq_of_parent_eq (normal : IsNormal path) (below : path ≠ "/")
    (normalOther : IsNormal other) (belowOther : other ≠ "/")
    (parents : Path.parent path = Path.parent other)
    (names : fileName path = fileName other) : path = other := by
  obtain ⟨name, last, _, split⟩ := segments_parent normal below
  obtain ⟨_, lastOther, _, splitOther⟩ :=
    segments_parent normalOther belowOther
  cases last.symm.trans (names.trans lastOther)
  exact normal.ext normalOther (by rw [split, splitOther, parents])

/-- A name in a directory is a path that is that name in it. -/
theorem child_isNormal (normal : IsNormal directory) (isName : IsName name) :
    IsNormal (child directory name) ∧ child directory name ≠ "/"
      ∧ Path.parent (child directory name) = directory
      ∧ fileName (child directory name) = some name := by
  obtain ⟨names, fit, rfl⟩ := isNormal_iff.mp normal
  have fitBelow : ∀ found ∈ names ++ [name], IsName found := by
    simpa [or_imp, forall_and] using ⟨fit, isName⟩
  rw [child_ofNames fit]
  refine ⟨isNormal_ofNames fitBelow, ?_, ?_, ?_⟩
  · simp [ofNames_eq_root_iff fitBelow]
  · rw [parent_ofNames fitBelow, List.dropLast_concat]
  · rw [fileName_ofNames fitBelow, List.getLast?_concat]

/-- A path is its name in its directory. -/
theorem child_parent (normal : IsNormal path) (below : path ≠ "/")
    (named : fileName path = some name) :
    child (Path.parent path) name = path := by
  obtain ⟨_, last, isName, _⟩ := segments_parent normal below
  cases named.symm.trans last
  obtain ⟨normalChild, belowChild, parents, names⟩ :=
    child_isNormal normal.parent isName
  exact eq_of_parent_eq normalChild belowChild normal below parents
    (names.trans named.symm)

/-- Seen from a directory, a name is the path that is that name in it. -/
theorem resolve_eq_child (normal : IsNormal directory)
    (isName : IsName name) :
    Path.resolve directory name = child directory name := by
  obtain ⟨names, fit, rfl⟩ := isNormal_iff.mp normal
  have isSegment := isSegment_of_isName isName
  have relative : isAbsolute name = false :=
    isAbsolute_of_toList_eq isSegment (List.append_nil _).symm
  -- The walk goes down to the directory, and then one step further.
  have led : reached (ofNames names) name = names ++ [name] := by
    rw [reached, relative, if_neg Bool.false_ne_true, walk_ofNames fit,
      walk_eq_foldl, segments_of_isSegment isSegment]
    exact congrArg Place.names (step_name ⟨0, names⟩ isName)
  rw [resolve_eq_ofNames normal.1, led, child_ofNames fit]

end

end MountSpace.Proofs.Paths
