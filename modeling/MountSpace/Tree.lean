import MountSpace.Bytes
import MountSpace.Fault
import MountSpace.Keyed
import MountSpace.Limits
import MountSpace.Stat

/-!
# `MountSpace.Tree`: trees of directories and files

A tree is a file with its contents, or a directory with a tree for each
of its entries, in the order of their names. A path is a list of names.

* `Tree.lookup`: the tree at a path.
* `Tree.put`, `Tree.remove`: the tree with another one put at a path, or
  with the one there taken out. The directory that holds the last name
  has to be there.
* `Tree.WellFormed`: the entries of every directory are in order, and all
  names are short enough and ones that a path can hold.
-/

set_option autoImplicit false

namespace MountSpace

/-- A file or a directory. -/
inductive Tree where
  | file (data : Bytes)
  | directory (entries : List (String × Tree))

namespace Tree

/-! ### Equality -/

mutual

/-- Whether two trees are the same. -/
def decEq : (left right : Tree) → Decidable (left = right)
  | .file data, .file other =>
    if same : data = other then isTrue (congrArg Tree.file same)
    else isFalse fun equal => same (Tree.file.inj equal)
  | .file _, .directory _ => isFalse nofun
  | .directory _, .file _ => isFalse nofun
  | .directory entries, .directory others =>
    match decEqEntries entries others with
    | isTrue same => isTrue (congrArg Tree.directory same)
    | isFalse different =>
      isFalse fun equal => different (Tree.directory.inj equal)
termination_by structural left => left

/-- Whether two directories have the same entries. -/
def decEqEntries :
    (left right : List (String × Tree)) → Decidable (left = right)
  | [], [] => isTrue rfl
  | [], _ :: _ => isFalse nofun
  | _ :: _, [] => isFalse nofun
  | (name, tree) :: rest, (other, otherTree) :: others =>
    if sameName : name = other then
      match decEq tree otherTree, decEqEntries rest others with
      | isTrue same, isTrue sameRest =>
        isTrue (by rw [sameName, same, sameRest])
      | isFalse different, _ => isFalse fun equal => by
        injection equal with entry
        injection entry with _ tree
        exact different tree
      | _, isFalse different => isFalse fun equal => by
        injection equal with _ rest
        exact different rest
    else isFalse fun equal => by
      injection equal with entry
      injection entry with name
      exact sameName name
termination_by structural left => left

end

instance : DecidableEq Tree := decEq

/-! ### Induction -/

/-- What holds of a directory as soon as it holds of all its entries
holds of all trees. -/
theorem induction {motive : Tree → Prop}
    (file : ∀ data, motive (.file data))
    (directory : ∀ entries : List (String × Tree),
      (∀ entry ∈ entries, motive entry.2) → motive (.directory entries))
    (tree : Tree) : motive tree :=
  @Tree.rec motive (fun entries => ∀ entry ∈ entries, motive entry.2)
    (fun entry => motive entry.2) file directory
    (fun _ member => nomatch member)
    (fun _ _ first others => List.forall_mem_cons.mpr ⟨first, others⟩)
    (fun _ _ tree => tree) tree

/-! ### Paths -/

/-- A directory without entries. -/
def empty : Tree := .directory []

/-- What is known of the root of a tree. -/
def stat : Tree → Stat
  | .file data => .file data.length
  | .directory _ => .directory

/-- Whether the root of a tree is a directory. -/
def isDirectory : Tree → Bool
  | .file _ => false
  | .directory _ => true

/-- The tree at a path. A file on the way is no directory, and a name
that is not there is not found. -/
def lookup : Tree → List String → Except Fault Tree
  | tree, [] => .ok tree
  | .file _, _ :: _ => .error .notDirectory
  | .directory entries, name :: rest =>
    match Keyed.get? entries name with
    | some child => child.lookup rest
    | none => .error .notFound

/-- Changes the entries of the directory that holds the last name of a
path. The root is in no directory. -/
def editEntries
    (change : String → Keyed String Tree → Keyed String Tree) :
    Tree → List String → Except Fault Tree
  | _, [] => .error .invalidArgument
  | .file _, _ :: _ => .error .notDirectory
  | .directory entries, [name] => .ok (.directory (change name entries))
  | .directory entries, name :: next :: rest =>
    match Keyed.get? entries name with
    | some child => do
      let child ← child.editEntries change (next :: rest)
      return .directory (Keyed.insert entries name child)
    | none => .error .notFound

/-- Puts a tree at a path, in place of what was there. -/
def put (root : Tree) (path : List String) (tree : Tree) :
    Except Fault Tree :=
  root.editEntries (fun name entries => Keyed.insert entries name tree) path

/-- Takes out what is at a path. -/
def remove (root : Tree) (path : List String) : Except Fault Tree :=
  root.editEntries (fun name entries => Keyed.erase entries name) path

/-! ### Names -/

/-- Names that a directory entry can have: not empty, without a slash,
and not one of the two that a path gives a meaning of its own. -/
def IsName (name : String) : Prop :=
  name ≠ "" ∧ name ≠ "." ∧ name ≠ ".." ∧ '/' ∉ name.toList

instance (name : String) : Decidable (IsName name) :=
  inferInstanceAs (Decidable (_ ∧ _ ∧ _ ∧ _))

mutual

/-- Every directory of the tree lists names in order, all of them short
enough and ones that a path can hold. -/
def WellFormed : Tree → Prop
  | .file _ => True
  | .directory entries => Keyed.Sorted entries ∧ WellFormedEntries entries
termination_by structural tree => tree

/-- The names are short enough and ones that a path can hold, and the
trees under them are well formed. -/
def WellFormedEntries : List (String × Tree) → Prop
  | [] => True
  | (name, tree) :: rest =>
    (IsName name ∧ name.utf8ByteSize ≤ maxNameLength)
      ∧ tree.WellFormed ∧ WellFormedEntries rest
termination_by structural entries => entries

end

mutual

/-- Whether a tree is well formed. -/
def decWellFormed : (tree : Tree) → Decidable tree.WellFormed
  | .file _ => isTrue True.intro
  | .directory entries =>
    have := decWellFormedEntries entries
    inferInstanceAs
      (Decidable ((entries.map Prod.fst).Pairwise (· < ·)
        ∧ WellFormedEntries entries))
termination_by structural tree => tree

/-- Whether the entries of a directory are. -/
def decWellFormedEntries :
    (entries : List (String × Tree)) → Decidable (WellFormedEntries entries)
  | [] => isTrue True.intro
  | (name, tree) :: rest =>
    have := decWellFormed tree
    have := decWellFormedEntries rest
    inferInstanceAs
      (Decidable ((IsName name ∧ name.utf8ByteSize ≤ maxNameLength)
        ∧ tree.WellFormed ∧ WellFormedEntries rest))
termination_by structural entries => entries

end

instance (tree : Tree) : Decidable tree.WellFormed := decWellFormed tree

theorem wellFormed_directory {entries : List (String × Tree)} :
    (directory entries).WellFormed
      ↔ Keyed.Sorted entries ∧ WellFormedEntries entries := Iff.rfl

theorem wellFormedEntries_iff {entries : List (String × Tree)} :
    WellFormedEntries entries
      ↔ ∀ entry ∈ entries,
        (IsName entry.1 ∧ entry.1.utf8ByteSize ≤ maxNameLength)
          ∧ entry.2.WellFormed := by
  induction entries with
  | nil => simp [WellFormedEntries]
  | cons entry rest ih =>
    obtain ⟨name, tree⟩ := entry
    rw [WellFormedEntries, ih, List.forall_mem_cons, and_assoc,
      and_assoc, and_assoc]

end Tree

end MountSpace
