import MountSpace.Proofs.Image.Grammar
import MountSpace.Proofs.Trees.Lookups

/-!
# `MountSpace.Proofs.Trees.Sizes`: how long the image of a tree is

A tree that takes the place of another one makes the image of the whole tree
longer or shorter by as much as the two differ (`length_encode_replace`),
however deep it lies. Without a part of it no tree has a longer image
(`length_encode_remove_le`). No part of a tree has a longer image than the whole
tree (`length_encode_le_of_lookup`).
-/

set_option autoImplicit false

namespace MountSpace.Proofs.Trees

open Image
open MountSpace.Tree (encodeEntries)

variable {entries : Keyed String Tree} {root after old new : Tree}
  {path : List String} {name : String}

/-- Only the image of the entry itself is another one. -/
theorem length_encodeEntries_insert (sorted : Keyed.Sorted entries)
    (entry : Keyed.get? entries name = some old) (new : Tree) :
    (encodeEntries (Keyed.insert entries name new) []).length
        + old.encode.length
      = (encodeEntries entries []).length + new.encode.length := by
  induction entries with
  | nil => nomatch entry
  | cons first rest ih =>
    obtain ⟨other, tree⟩ := first
    obtain ⟨least, ordered⟩ := List.pairwise_cons.mp sorted
    by_cases same : other = name
    · subst same
      rw [Keyed.get?, if_pos rfl] at entry
      cases entry
      simp only [Keyed.insert, if_pos, encodeEntries_cons,
        List.length_append]
      omega
    · rw [Keyed.get?, if_neg same] at entry
      have later : name ∈ Keyed.keys rest :=
        List.mem_map_of_mem (Keyed.mem_of_get?_eq_some entry)
      -- The entry is behind the first one, because the names are in order.
      have above : ¬ name < other :=
        Std.Asymm.asymm other name (least name later)
      simp only [Keyed.insert, if_neg same, if_neg above, encodeEntries_cons,
        List.length_append]
      have rest := ih ordered entry
      omega

theorem length_encode_insert
    (formed : (Tree.directory entries).WellFormed)
    (entry : Keyed.get? entries name = some old) (new : Tree) :
    (Tree.directory (Keyed.insert entries name new)).encode.length
        + old.encode.length
      = (Tree.directory entries).encode.length + new.encode.length := by
  have sorted := (wellFormed_directory_iff.mp formed).1
  have sizes := length_encodeEntries_insert sorted entry new
  simp only [encode_directory, List.length_cons, List.length_append,
    Bytes.length_littleEndian]
  omega

/-- What a tree gains or loses is what the tree at the path does. -/
theorem length_encode_replace (formed : root.WellFormed)
    (found : root.lookup path = .ok old)
    (put : root.put path new = .ok after) :
    after.encode.length + old.encode.length
      = root.encode.length + new.encode.length := by
  induction path generalizing root after with
  | nil => cases root <;> cases put
  | cons name rest ih =>
    rw [Tree.put] at put
    by_cases last : rest = []
    · subst last
      obtain ⟨entries, rfl, rfl⟩ := editEntries_single_eq_ok put
      cases entry : Keyed.get? entries name with
      | none =>
        rw [lookup_directory_cons, entry] at found
        cases found
      | some child =>
        rw [lookup_directory_of_get? entry] at found
        cases found
        exact length_encode_insert formed entry new
    · obtain ⟨entries, child, edited, rfl, entry, inner, rfl⟩ :=
        editEntries_cons_eq_ok last put
      rw [lookup_directory_of_get? entry] at found
      have below := ih (of_get?_eq_some formed entry).2 found inner
      have whole := length_encode_insert formed entry edited
      omega

/-- The entries that are left have no longer image, in whatever order they
are. -/
theorem length_encodeEntries_erase_le (entries : Keyed String Tree)
    (name : String) :
    (encodeEntries (Keyed.erase entries name) []).length
      ≤ (encodeEntries entries []).length := by
  induction entries with
  | nil => exact Nat.le_refl _
  | cons first rest ih =>
    obtain ⟨other, tree⟩ := first
    by_cases same : other = name
    · simp only [Keyed.erase, if_pos same, encodeEntries_cons,
        List.length_append]
      omega
    · simp only [Keyed.erase, if_neg same, encodeEntries_cons,
        List.length_append]
      omega

/-- What is taken out makes the image no longer. -/
theorem length_encode_remove_le (formed : root.WellFormed)
    (remove : root.remove path = .ok after) :
    after.encode.length ≤ root.encode.length := by
  induction path generalizing root after with
  | nil => cases root <;> cases remove
  | cons name rest ih =>
    rw [Tree.remove] at remove
    by_cases last : rest = []
    · subst last
      obtain ⟨entries, rfl, rfl⟩ := editEntries_single_eq_ok remove
      have fewer := length_encodeEntries_erase_le entries name
      simp only [encode_directory, List.length_cons, List.length_append,
        Bytes.length_littleEndian]
      omega
    · obtain ⟨entries, child, edited, rfl, entry, inner, rfl⟩ :=
        editEntries_cons_eq_ok last remove
      have below := ih (of_get?_eq_some formed entry).2 inner
      have whole := length_encode_insert formed entry edited
      omega

/-- A file that is emptied makes the image no longer. -/
theorem length_encode_empty_file_le (formed : root.WellFormed) {data : Bytes}
    (found : root.lookup path = .ok (.file data))
    (put : root.put path (.file []) = .ok after) :
    after.encode.length ≤ root.encode.length := by
  have size := length_encode_replace formed found put
  simp only [encode_file, List.length_cons, List.length_append,
    Bytes.length_littleEndian, List.length_nil] at size
  omega

/-- What is in a tree is part of its image. -/
theorem length_encode_le_of_lookup (found : root.lookup path = .ok old) :
    old.encode.length ≤ root.encode.length := by
  induction path generalizing root with
  | nil =>
    cases found
    exact Nat.le_refl _
  | cons name rest ih =>
    cases root with
    | file data => nomatch found
    | directory entries =>
      cases entry : Keyed.get? entries name with
      | none =>
        rw [lookup_directory_cons, entry] at found
        nomatch found
      | some child =>
        rw [lookup_directory_of_get? entry] at found
        have below := ih found
        have piece : child.encode.length ≤ (encodeEntries entries []).length :=
          length_encode_le_of_mem (Keyed.mem_of_get?_eq_some entry)
        simp only [encode_directory, List.length_cons, List.length_append]
        omega

end MountSpace.Proofs.Trees
