import MountSpace.Proofs.Trees.Shape

/-!
# `MountSpace.Proofs.Trees.Lookups`: edits and the nodes of trees

An edit changes what is at its path and below it. The directories above
the path are still directories afterwards, and all other nodes stay as they
are (`Edited`).

* `edited_put`, `edited_remove`: both edits are of this kind. The one leaves
  the nodes of the tree that is put below the path, the other one none.
* `Edited.present_iff`: there is a node where there was one, other than at
  the path and below it.
* `mem_keys_iff_present`: the names in a directory are told by the nodes one
  step below it, so an edit changes one name at most.
-/

set_option autoImplicit false

namespace MountSpace.Proofs.Trees

/-- Neither path leads to the other one, nor are they the same. -/
def Apart (left right : List String) : Prop :=
  ¬ left <+: right ∧ ¬ right <+: left

/-- There is a node at the path. -/
def Present (root : Tree) (path : List String) : Prop :=
  ∃ tree, root.lookup path = .ok tree

/-- There is a directory at the path. -/
def DirectoryAt (root : Tree) (path : List String) : Prop :=
  ∃ entries, root.lookup path = .ok (.directory entries)

section

variable {entries : Keyed String Tree} {root tree after child : Tree}
  {path wanted more : List String} {name : String}

theorem Apart.symm {left right : List String} (apart : Apart left right) :
    Apart right left := ⟨apart.2, apart.1⟩

theorem Apart.ne {left right : List String} (apart : Apart left right) :
    left ≠ right := by
  rintro rfl
  exact apart.1 (List.prefix_refl left)

/-- What is below one of two paths apart is apart from the other one. -/
theorem Apart.append {left right : List String} (apart : Apart left right)
    (more : List String) : Apart left (right ++ more) := by
  constructor
  · intro prefixed
    -- Two beginnings of one path begin with one another.
    rcases List.prefix_or_prefix_of_prefix prefixed
      (List.prefix_append right more) with below | above
    · exact apart.1 below
    · exact apart.2 above
  · intro prefixed
    exact apart.2 ((List.prefix_append right more).trans prefixed)

/-! ### Nodes of one directory -/

theorem lookup_directory_cons :
    (Tree.directory entries).lookup (name :: more)
      = match Keyed.get? entries name with
        | some child => child.lookup more
        | none => .error .notFound := by
  cases entry : Keyed.get? entries name with
  | none => simp only [Tree.lookup, entry]
  | some child => simp only [Tree.lookup, entry]

theorem lookup_directory_of_get? (entry : Keyed.get? entries name = some child) :
    (Tree.directory entries).lookup (name :: more) = child.lookup more := by
  rw [lookup_directory_cons, entry]

theorem not_present_file {data : Bytes} :
    ¬ Present (.file data) (name :: more) := by
  rintro ⟨tree, found⟩
  nomatch found

theorem not_present_empty : ¬ Present (.directory []) (name :: more) := by
  rintro ⟨tree, found⟩
  nomatch found

/-- What is below a path is in the tree at the path. -/
theorem present_append (found : root.lookup path = .ok tree) :
    Present root (path ++ more) ↔ Present tree more := by
  simp only [Present, lookup_append, found]
  rfl

/-- The names in a directory are those of the nodes in it. -/
theorem mem_keys_iff_present
    (found : root.lookup path = .ok (.directory entries)) :
    name ∈ Keyed.keys entries ↔ Present root (path ++ [name]) := by
  rw [present_append found, ← Keyed.contains_eq_true_iff, Keyed.contains]
  simp only [Present, lookup_directory_cons]
  cases entry : Keyed.get? entries name with
  | none => simp
  | some child => simp [Tree.lookup]

/-! ### What an edit comes to -/

/-- An edit further down is one of a child. -/
theorem editEntries_cons
    {change : String → Keyed String Tree → Keyed String Tree}
    (deeper : path ≠ []) (entry : Keyed.get? entries name = some child) :
    (Tree.directory entries).editEntries change (name :: path)
      = child.editEntries change path >>= fun edited =>
        .ok (.directory (Keyed.insert entries name edited)) := by
  obtain ⟨next, rest, rfl⟩ := List.exists_cons_of_ne_nil deeper
  rw [Tree.editEntries, entry]
  rfl

/-- The entry that is changed is in the root itself. -/
theorem editEntries_single_eq_ok
    {change : String → Keyed String Tree → Keyed String Tree}
    (edit : root.editEntries change [name] = .ok after) :
    ∃ entries, root = .directory entries
      ∧ after = .directory (change name entries) := by
  cases root with
  | file data => nomatch edit
  | directory entries =>
    cases edit
    exact ⟨entries, rfl, rfl⟩

/-- The entry that is changed is further down. -/
theorem editEntries_cons_eq_ok
    {change : String → Keyed String Tree → Keyed String Tree}
    (deeper : path ≠ [])
    (edit : root.editEntries change (name :: path) = .ok after) :
    ∃ entries child edited, root = .directory entries
      ∧ Keyed.get? entries name = some child
      ∧ child.editEntries change path = .ok edited
      ∧ after = .directory (Keyed.insert entries name edited) := by
  obtain ⟨next, rest, rfl⟩ := List.exists_cons_of_ne_nil deeper
  cases root with
  | file data => nomatch edit
  | directory entries =>
    rw [Tree.editEntries] at edit
    cases entry : Keyed.get? entries name with
    | none =>
      rw [entry] at edit
      nomatch edit
    | some child =>
      cases inner : child.editEntries change (next :: rest) with
      | error fault =>
        simp only [entry, inner] at edit
        nomatch edit
      | ok edited =>
        simp only [entry, inner] at edit
        cases edit
        exact ⟨entries, child, edited, rfl, entry, inner, rfl⟩

/-- An edit at a path, which leaves `below` there: the directories on the
way are still there, and so is everything that the way does not lead
through. -/
structure Edited (path : List String)
    (below : List String → Except Fault Tree) (root after : Tree) : Prop where
  within : ∀ more, after.lookup (path ++ more) = below more
  apart : ∀ wanted, Apart path wanted →
    after.lookup wanted = root.lookup wanted
  above : ∀ wanted, wanted <+: path → wanted ≠ path →
    DirectoryAt root wanted ∧ DirectoryAt after wanted

/-- A change of the root's own entries. -/
theorem edited_entry {others : Keyed String Tree}
    (same : ∀ other, other ≠ name →
      Keyed.get? others other = Keyed.get? entries other) :
    Edited [name] (fun more => (Tree.directory others).lookup (name :: more))
      (.directory entries) (.directory others) := by
  constructor
  · intro more
    rfl
  · intro wanted apart
    cases wanted with
    | nil => exact absurd List.nil_prefix apart.2
    | cons other more =>
      have different : other ≠ name := by
        rintro rfl
        exact apart.1 ⟨more, rfl⟩
      rw [lookup_directory_cons, lookup_directory_cons, same other different]
  · intro wanted prefixed different
    have root : wanted = [] := by
      rw [List.prefix_cons_iff] at prefixed
      rcases prefixed with rfl | ⟨rest, rfl, none⟩
      · rfl
      · rw [List.prefix_nil.mp none] at different
        exact absurd rfl different
    subst root
    exact ⟨⟨entries, rfl⟩, ⟨others, rfl⟩⟩

/-- An edit of a child is one of the directory it is in. -/
theorem Edited.cons {edited : Tree}
    {below : List String → Except Fault Tree}
    (edit : Edited path below child edited)
    (entry : Keyed.get? entries name = some child) :
    Edited (name :: path) below (.directory entries)
      (.directory (Keyed.insert entries name edited)) := by
  have entered : Keyed.get? (Keyed.insert entries name edited) name
      = some edited := Keyed.get?_insert_self ..
  constructor
  · intro more
    rw [List.cons_append, lookup_directory_of_get? entered]
    exact edit.within more
  · intro wanted apart
    cases wanted with
    | nil => exact absurd List.nil_prefix apart.2
    | cons other more =>
      by_cases same : other = name
      · subst same
        rw [lookup_directory_of_get? entered, lookup_directory_of_get? entry]
        have deeper : Apart path more :=
          ⟨fun prefixed => apart.1 (List.cons_prefix_cons.mpr ⟨rfl, prefixed⟩),
            fun prefixed => apart.2 (List.cons_prefix_cons.mpr ⟨rfl, prefixed⟩)⟩
        exact edit.apart more deeper
      · rw [lookup_directory_cons, lookup_directory_cons,
          Keyed.get?_insert_of_ne entries (Ne.symm same)]
  · intro wanted prefixed different
    cases wanted with
    | nil => exact ⟨⟨entries, rfl⟩, ⟨_, rfl⟩⟩
    | cons other more =>
      obtain ⟨rfl, inner⟩ := List.cons_prefix_cons.mp prefixed
      have shorter : more ≠ path := by
        rintro rfl
        exact different rfl
      rw [DirectoryAt, DirectoryAt, lookup_directory_of_get? entered,
        lookup_directory_of_get? entry]
      exact edit.above more inner shorter

/-- A change of the entry under the last name of a path, in the directory
that holds it, is an edit of the whole tree. What is `Good` of a tree and of
the trees in it may be used there. -/
theorem edited_editEntries (Good : Tree → Prop)
    {change : String → Keyed String Tree → Keyed String Tree}
    {below : List String → Except Fault Tree}
    (inherits : ∀ entries name child, Good (.directory entries) →
      Keyed.get? entries name = some child → Good child)
    (others : ∀ name other entries, other ≠ name →
      Keyed.get? (change name entries) other = Keyed.get? entries other)
    (left : ∀ name entries, Good (.directory entries) → ∀ more,
      (Tree.directory (change name entries)).lookup (name :: more)
        = below more)
    (good : Good root) (edit : root.editEntries change path = .ok after) :
    Edited path below root after := by
  induction path generalizing root after with
  | nil => cases root <;> nomatch edit
  | cons name rest ih =>
    by_cases last : rest = []
    · subst last
      obtain ⟨entries, rfl, rfl⟩ := editEntries_single_eq_ok edit
      have changed := edited_entry fun other =>
        others name other entries
      exact ⟨fun more => left name entries good more, changed.apart,
        changed.above⟩
    · obtain ⟨entries, child, edited, rfl, entry, inner, rfl⟩ :=
        editEntries_cons_eq_ok last edit
      exact (ih (inherits entries name child good entry) inner).cons entry

/-- Below the path of a tree that is put there are the nodes of the
tree. -/
theorem edited_put (put : root.put path tree = .ok after) :
    Edited path tree.lookup root after := by
  refine edited_editEntries (fun _ => True)
    (fun _ _ _ _ _ => trivial) ?_ ?_ trivial put
  · intro name other entries different
    exact Keyed.get?_insert_of_ne entries (Ne.symm different) tree
  · intro name entries _ more
    have entered : Keyed.get? (Keyed.insert entries name tree) name
        = some tree := Keyed.get?_insert_self ..
    exact lookup_directory_of_get? entered

/-- The tree that is put is at its path. -/
theorem lookup_put (put : root.put path tree = .ok after) :
    after.lookup path = .ok tree := by
  have there := (edited_put put).within []
  rwa [List.append_nil] at there

/-- Nothing is left at a path or below it when that has been taken out. -/
theorem edited_remove (formed : root.WellFormed)
    (remove : root.remove path = .ok after) :
    Edited path (fun _ => .error .notFound) root after := by
  refine edited_editEntries Tree.WellFormed
    (fun _ _ _ formed entry => (of_get?_eq_some formed entry).2) ?_ ?_
    formed remove
  · intro name other entries different
    exact Keyed.get?_erase_of_ne entries (Ne.symm different)
  · intro name entries formed more
    -- Without the order of the names a second entry might come to light.
    have absent : Keyed.get? (Keyed.erase entries name) name = none :=
      Keyed.get?_erase_self (wellFormed_directory_iff.mp formed).1 name
    rw [lookup_directory_cons, absent]

/-- Where something is other than the root, something else can be put. -/
theorem put_of_lookup {old : Tree} (found : root.lookup path = .ok old)
    (below : path ≠ []) (new : Tree) :
    ∃ after, root.put path new = .ok after := by
  induction path generalizing root with
  | nil => exact absurd rfl below
  | cons name rest ih =>
    cases root with
    | file data => nomatch found
    | directory entries =>
      by_cases last : rest = []
      · subst last
        exact ⟨_, rfl⟩
      · rw [lookup_directory_cons] at found
        cases entry : Keyed.get? entries name with
        | none =>
          rw [entry] at found
          nomatch found
        | some child =>
          rw [entry] at found
          obtain ⟨edited, inner⟩ := ih found last
          rw [Tree.put] at inner
          refine ⟨.directory (Keyed.insert entries name edited), ?_⟩
          rw [Tree.put, editEntries_cons last entry, inner]
          rfl

/-- Of two trees that are put at one path the second one stays. -/
theorem put_put {first second : Tree}
    (put : root.put path first = .ok after) :
    after.put path second = root.put path second := by
  induction path generalizing root after with
  | nil => cases root <;> nomatch put
  | cons name rest ih =>
    rw [Tree.put] at put
    by_cases last : rest = []
    · subst last
      obtain ⟨entries, rfl, rfl⟩ := editEntries_single_eq_ok put
      simp only [Tree.put, Tree.editEntries, Keyed.insert_insert]
    · obtain ⟨entries, child, edited, rfl, entry, inner, rfl⟩ :=
        editEntries_cons_eq_ok last put
      have entered : Keyed.get? (Keyed.insert entries name edited) name
          = some edited := Keyed.get?_insert_self ..
      have same := ih inner
      rw [Tree.put, Tree.put] at same
      simp only [Tree.put, editEntries_cons last entered,
        editEntries_cons last entry, same, Keyed.insert_insert]

/-- At the path of an edit there is a node if the edit leaves one. -/
theorem Edited.present_self {below : List String → Except Fault Tree}
    (edited : Edited path below root after) :
    Present after path ↔ ∃ tree, below [] = .ok tree := by
  have there := edited.within []
  rw [List.append_nil] at there
  rw [Present, there]

/-- There is a node where there was one, other than at the path of the edit
and below it. -/
theorem Edited.present_iff {below : List String → Except Fault Tree}
    (edited : Edited path below root after) (outside : ¬ path <+: wanted) :
    Present after wanted ↔ Present root wanted := by
  by_cases above : wanted <+: path
  · have different : wanted ≠ path := by
      rintro rfl
      exact outside above
    obtain ⟨⟨_, before⟩, ⟨_, since⟩⟩ := edited.above wanted above different
    exact ⟨fun _ => ⟨_, before⟩, fun _ => ⟨_, since⟩⟩
  · rw [Present, Present, edited.apart wanted ⟨outside, above⟩]

end

end MountSpace.Proofs.Trees
