import MountSpace.Tree

/-!
# `MountSpace.Proofs.Trees.Shape`: edits and the form of trees

What a look-up finds in a well-formed tree is well formed, and so is what
an edit makes of one.

* `storable_of_lookup`: a path at which something is found is made of
  names that a directory can have.
* `wellFormed_put`, `wellFormed_remove`: a tree is still well formed when
  another one has been put at a path of such names, or when something has
  been taken out.
* `IsRoot`: a well-formed directory, which is what a volume can hold. What
  an edit makes of a tree is a directory in any case.
-/

set_option autoImplicit false

namespace MountSpace.Proofs.Trees

open MountSpace.Tree (IsName)

/-- The names that the entries of a well-formed tree can have. -/
def Storable (name : String) : Prop :=
  IsName name ∧ name.utf8ByteSize ≤ maxNameLength

section

variable {entries : Keyed String Tree} {root tree after : Tree}
  {path : List String}

theorem wellFormed_directory_iff :
    (Tree.directory entries).WellFormed
      ↔ Keyed.Sorted entries
        ∧ ∀ entry ∈ entries, Storable entry.1 ∧ entry.2.WellFormed := by
  rw [Tree.wellFormed_directory, Tree.wellFormedEntries_iff]
  exact Iff.rfl

theorem wellFormed_file (data : Bytes) : (Tree.file data).WellFormed :=
  trivial

theorem wellFormed_empty : Tree.empty.WellFormed := by
  rw [Tree.empty, wellFormed_directory_iff]
  exact ⟨List.Pairwise.nil, nofun⟩

/-! ### Look-ups -/

/-- An entry that is found under a name is one of the list. -/
theorem of_get?_eq_some {name : String} {child : Tree}
    (formed : (Tree.directory entries).WellFormed)
    (found : Keyed.get? entries name = some child) :
    Storable name ∧ child.WellFormed := by
  have member := Keyed.mem_of_get?_eq_some found
  exact (wellFormed_directory_iff.mp formed).2 (name, child) member

/-- A look-up goes on from where another one has led. -/
theorem lookup_append (root : Tree) (path more : List String) :
    root.lookup (path ++ more)
      = root.lookup path >>= fun tree => tree.lookup more := by
  fun_induction Tree.lookup root path with
  | case1 root => rfl
  | case2 data name rest => rfl
  | case3 entries name rest child entry ih =>
    rw [List.cons_append, Tree.lookup, entry]
    exact ih
  | case4 entries name rest none =>
    rw [List.cons_append, Tree.lookup, none]
    rfl

theorem storable_of_lookup (formed : root.WellFormed)
    (found : root.lookup path = .ok tree) :
    ∀ name ∈ path, Storable name := by
  fun_induction Tree.lookup root path with
  | case1 root => exact fun _ member => nomatch member
  | case2 data name rest => nomatch found
  | case3 entries name rest child entry ih =>
    obtain ⟨first, below⟩ := of_get?_eq_some formed entry
    exact List.forall_mem_cons.mpr ⟨first, ih below found⟩
  | case4 entries name rest none => nomatch found

theorem wellFormed_of_lookup (formed : root.WellFormed)
    (found : root.lookup path = .ok tree) : tree.WellFormed := by
  fun_induction Tree.lookup root path with
  | case1 root =>
    cases found
    exact formed
  | case2 data name rest => nomatch found
  | case3 entries name rest child entry ih =>
    exact ih (of_get?_eq_some formed entry).2 found
  | case4 entries name rest none => nomatch found

/-! ### Edits -/

theorem wellFormed_insert {name : String} {child : Tree}
    (formed : (Tree.directory entries).WellFormed)
    (storable : Storable name) (good : child.WellFormed) :
    (Tree.directory (Keyed.insert entries name child)).WellFormed := by
  obtain ⟨ordered, all⟩ := wellFormed_directory_iff.mp formed
  rw [wellFormed_directory_iff]
  constructor
  · exact ordered.insert name child
  · intro entry member
    rcases Keyed.mem_of_mem_insert member with rfl | old
    · exact ⟨storable, good⟩
    · exact all entry old

theorem wellFormed_erase
    (formed : (Tree.directory entries).WellFormed) (name : String) :
    (Tree.directory (Keyed.erase entries name)).WellFormed := by
  obtain ⟨ordered, all⟩ := wellFormed_directory_iff.mp formed
  rw [wellFormed_directory_iff]
  constructor
  · exact ordered.erase name
  · intro entry member
    exact all entry (Keyed.mem_of_mem_erase member)

/-- A change of one directory that keeps it well formed keeps the whole
tree well formed. -/
theorem wellFormed_editEntries
    {change : String → Keyed String Tree → Keyed String Tree}
    (formed : root.WellFormed)
    (keeps : ∀ name ∈ path, ∀ entries : Keyed String Tree,
      (Tree.directory entries).WellFormed →
      (Tree.directory (change name entries)).WellFormed)
    (edit : root.editEntries change path = .ok after) :
    after.WellFormed := by
  -- The change is made in one directory; those above it get a new child
  -- under a name they have already.
  fun_induction Tree.editEntries change root path generalizing after with
  | case1 root => nomatch edit
  | case2 data name rest => nomatch edit
  | case3 entries name =>
    cases edit
    exact keeps name List.mem_cons_self entries formed
  | case4 entries name next rest child entry ih =>
    obtain ⟨storable, below⟩ := of_get?_eq_some formed entry
    cases inner : child.editEntries change (next :: rest) with
    | error fault =>
      rw [inner] at edit
      nomatch edit
    | ok edited =>
      rw [inner] at edit
      cases edit
      have deeper := fun name member =>
        keeps name (List.mem_cons_of_mem _ member)
      exact wellFormed_insert formed storable (ih below deeper inner)
  | case5 entries name next rest none => nomatch edit

theorem wellFormed_put (formed : root.WellFormed)
    (good : tree.WellFormed) (storable : ∀ name ∈ path, Storable name)
    (put : root.put path tree = .ok after) : after.WellFormed :=
  wellFormed_editEntries formed
    (fun name member _ formed =>
      wellFormed_insert formed (storable name member) good) put

theorem wellFormed_remove (formed : root.WellFormed)
    (remove : root.remove path = .ok after) : after.WellFormed :=
  wellFormed_editEntries formed
    (fun name _ _ formed => wellFormed_erase formed name) remove

/-- What can be edited is a directory, before and after. -/
theorem isDirectory_of_editEntries
    {change : String → Keyed String Tree → Keyed String Tree}
    (edit : root.editEntries change path = .ok after) :
    after.isDirectory = true := by
  fun_induction Tree.editEntries change root path with
  | case1 root => nomatch edit
  | case2 data name rest => nomatch edit
  | case3 entries name =>
    cases edit
    rfl
  | case4 entries name next rest child entry _ =>
    cases inner : child.editEntries change (next :: rest) with
    | error fault =>
      rw [inner] at edit
      nomatch edit
    | ok edited =>
      rw [inner] at edit
      cases edit
      rfl
  | case5 entries name next rest none => nomatch edit

/-! ### Roots -/

/-- A tree that a volume can hold. -/
structure IsRoot (root : Tree) : Prop where
  formed : root.WellFormed
  directory : root.isDirectory = true

theorem isRoot_empty : IsRoot Tree.empty :=
  ⟨wellFormed_empty, rfl⟩

theorem isRoot_put (formed : root.WellFormed) (good : tree.WellFormed)
    (storable : ∀ name ∈ path, Storable name)
    (put : root.put path tree = .ok after) : IsRoot after :=
  ⟨wellFormed_put formed good storable put, isDirectory_of_editEntries put⟩

theorem isRoot_remove (formed : root.WellFormed)
    (remove : root.remove path = .ok after) : IsRoot after :=
  ⟨wellFormed_remove formed remove, isDirectory_of_editEntries remove⟩

end

end MountSpace.Proofs.Trees
