import MountSpace.Tree

/-!
# `MountSpace.Tree.Image`: a tree as a string of bytes

A tree is written down from its root on, each directory before its
entries:

    file       1, four bytes of length, the contents
    directory  2, four bytes of count, and for each entry
               one byte of length, the name, the tree

Names are UTF-8. Numbers are little-endian. A count or a length that
does not fit its bytes loses its upper part, which the bounds on names
and on whole images keep from happening.

`Tree.encode` writes the entries in the order of their names.
`Tree.decode` takes them in any order, but takes no name twice, no name
that a path cannot hold, and no byte after the root.
-/

set_option autoImplicit false

namespace MountSpace

namespace Tree

open Bytes (littleEndian)
open Bytes.Reader (take byte number reject)

/-- The bytes of a name. -/
def nameBytes (name : String) : Bytes :=
  name.toUTF8.data.toList

mutual

/-- The bytes of a tree, and then those that come after it. -/
def encodeBefore : Tree → (after : Bytes) → Bytes
  | .file data, after =>
    1 :: (littleEndian 4 data.length ++ (data ++ after))
  | .directory entries, after =>
    2 :: (littleEndian 4 entries.length ++ encodeEntries entries after)
termination_by structural tree => tree

/-- The bytes of the entries of a directory, and then those that come
after them. -/
def encodeEntries : List (String × Tree) → (after : Bytes) → Bytes
  | [], after => after
  | (name, tree) :: rest, after =>
    let bytes := nameBytes name
    littleEndian 1 bytes.length
      ++ (bytes ++ tree.encodeBefore (encodeEntries rest after))
termination_by structural entries => entries

end

mutual

theorem encodeBefore_append (tree : Tree) (after more : Bytes) :
    tree.encodeBefore after ++ more = tree.encodeBefore (after ++ more) := by
  cases tree with
  | file data => simp [encodeBefore]
  | directory entries =>
    simp [encodeBefore, encodeEntries_append entries after more]
termination_by structural tree

theorem encodeEntries_append (entries : List (String × Tree))
    (after more : Bytes) :
    encodeEntries entries after ++ more
      = encodeEntries entries (after ++ more) := by
  match entries with
  | [] => rfl
  | (name, tree) :: rest =>
    simp [encodeEntries, encodeBefore_append tree,
      encodeEntries_append rest after more]
termination_by structural entries

end

/-- The bytes of a tree. -/
def encode (tree : Tree) : Bytes := tree.encodeBefore []

/-- Bytes may follow a tree without a mark between them. -/
theorem encodeBefore_eq (tree : Tree) (after : Bytes) :
    tree.encodeBefore after = tree.encode ++ after := by
  rw [encode, encodeBefore_append, List.nil_append]

/-- Reads a name that a directory entry can have. -/
def readName : Bytes.Reader String := do
  let length ← number 1
  let data ← take length
  match String.fromUTF8? ⟨data.toArray⟩ with
  | some name => if IsName name then return name else reject
  | none => reject

/-- Reads `count` more entries, each tree with the given reader. -/
def readEntries (readTree : Bytes.Reader Tree) :
    (count : Nat) → Keyed String Tree → Bytes.Reader (Keyed String Tree)
  | 0, entries => pure entries
  | count + 1, entries => do
    let name ← readName
    let tree ← readTree
    if Keyed.contains entries name then reject
    else readEntries readTree count (Keyed.insert entries name tree)

/-- Reads a tree of at most `depth` levels. -/
def read : (depth : Nat) → Bytes.Reader Tree
  | 0 => reject
  | depth + 1 => do
    let tag ← byte
    if tag = 1 then
      let length ← number 4
      let data ← take length
      return .file data
    else if tag = 2 then
      let count ← number 4
      let entries ← readEntries (read depth) count []
      return .directory entries
    else reject

/-- Reads a tree. A tree has fewer levels than its image has bytes. -/
def reader : Bytes.Reader Tree :=
  StateT.mk fun data => (read data.length).run data

/-- The tree that a byte string stands for. A byte string that stands for
none is corrupted. -/
def decode (data : Bytes) : Except Fault Tree :=
  match Bytes.Reader.parse? reader data with
  | some tree => .ok tree
  | none => .error .corrupted

end Tree

end MountSpace
