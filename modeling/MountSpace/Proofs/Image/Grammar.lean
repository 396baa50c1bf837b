import MountSpace.Proofs.Image.Names

/-!
# `MountSpace.Proofs.Image.Grammar`: which byte strings are images

    image of a file       1, length, contents
    image of a directory  2, count, (name length, name, image) …

`IsImage listing image tree` says that `image` is an image of `tree` by
this grammar. A directory may list its entries in any order; what is
asked of the names in the order in which they stand there is the
parameter `listing`. With `List.Nodup` no name stands there twice, with
`Ascending` their bytes increase. Lengths and counts have four bytes, and
the length of a name has one.

* `IsImage.induction`: the induction over an image, with one case for
  each kind of node.
* `IsImage.length_encode`: all images of a tree are equally long.
* `isImage_encode`: what is written for a tree is an image of it, with
  ascending names, if it is not too long for its fields.
* `IsImage.encode_eq`: it is the only such image.
-/

set_option autoImplicit false

namespace MountSpace.Proofs.Image

open MountSpace.Tree (nameBytes IsName encodeEntries WellFormedEntries)
open Bytes (littleEndian)

/-! ### The grammar -/

/-- Names in strictly increasing order of their bytes. -/
def Ascending (names : List String) : Prop :=
  names.Pairwise fun name other => nameBytes name < nameBytes other

/-- The images of entries one after another, each of them the length of a
name, the name, and an image of the tree under it. -/
inductive Entries (subtree : Bytes → Tree → Prop) :
    Bytes → Keyed String Tree → Prop
  | nil : Entries subtree [] []
  | cons {name : String} {tree : Tree} {image images : Bytes}
    {listed : Keyed String Tree}
    (named : IsName name) (short : name.utf8ByteSize ≤ maxNameLength)
    (first : subtree image tree)
    (others : Entries subtree images listed) :
    Entries subtree
      (littleEndian 1 name.utf8ByteSize
        ++ (nameBytes name ++ (image ++ images)))
      ((name, tree) :: listed)

/-- The images of a tree, where the names in each directory are listed as
`listing` asks. -/
inductive IsImage (listing : List String → Prop) : Bytes → Tree → Prop
  | file (data : Bytes) (short : data.length < fieldLimit) :
    IsImage listing (1 :: (littleEndian 4 data.length ++ data))
      (.file data)
  | directory {image : Bytes} {listed entries : Keyed String Tree}
    (allowed : listing (Keyed.keys listed))
    (few : listed.length < fieldLimit)
    (images : Entries (IsImage listing) image listed)
    (same : listed.Perm entries) (sorted : Keyed.Sorted entries) :
    IsImage listing (2 :: (littleEndian 4 listed.length ++ image))
      (.directory entries)

/-- Induction over an image: what is claimed of a directory may be taken
for granted of all entries it lists. -/
@[elab_as_elim]
theorem IsImage.induction {listing : List String → Prop}
    {motive : Bytes → Tree → Prop}
    (file : ∀ data : Bytes, data.length < fieldLimit →
      motive (1 :: (littleEndian 4 data.length ++ data)) (.file data))
    (directory : ∀ {image : Bytes} {listed entries : Keyed String Tree},
      listing (Keyed.keys listed) → listed.length < fieldLimit →
      Entries motive image listed → listed.Perm entries →
      Keyed.Sorted entries →
      motive (2 :: (littleEndian 4 listed.length ++ image))
        (.directory entries))
    {image : Bytes} {tree : Tree} (h : IsImage listing image tree) :
    motive image tree :=
  @IsImage.rec listing (fun image tree _ => motive image tree)
    (fun image listed _ => Entries motive image listed)
    file
    (fun allowed few _ same sorted images =>
      directory allowed few images same sorted)
    .nil
    (fun named short _ _ first others =>
      .cons named short first others)
    _ _ h

/-! ### Entries -/

section Entries

variable {subtree other : Bytes → Tree → Prop} {image : Bytes}
  {listed : Keyed String Tree}

/-- What is asked of the trees may be weakened for the images of the
entries, none of which is longer than all of them. -/
theorem Entries.imp (h : Entries subtree image listed)
    (weaker : ∀ piece tree, piece.length ≤ image.length →
      subtree piece tree → other piece tree) :
    Entries other image listed := by
  induction h with
  | nil => exact .nil
  | cons named short first _ ih =>
    simp only [List.length_append] at weaker
    exact .cons named short (weaker _ _ (by omega) first)
      (ih fun piece tree le => weaker piece tree (by omega))

/-- Every entry has a good name and an image. -/
theorem Entries.of_mem (h : Entries subtree image listed)
    {entry : String × Tree} (member : entry ∈ listed) :
    (IsName entry.1 ∧ entry.1.utf8ByteSize ≤ maxNameLength)
      ∧ ∃ piece, subtree piece entry.2 := by
  induction h with
  | nil => cases member
  | cons named short first _ ih =>
    rcases List.mem_cons.mp member with rfl | member
    · exact ⟨⟨named, short⟩, _, first⟩
    · exact ih member

theorem encodeEntries_cons (name : String) (tree : Tree)
    (listed : Keyed String Tree) :
    encodeEntries ((name, tree) :: listed) []
      = littleEndian 1 name.utf8ByteSize
        ++ (nameBytes name ++ (tree.encode ++ encodeEntries listed [])) := by
  rw [encodeEntries, Tree.encodeBefore_eq]
  rfl

theorem encode_directory (entries : Keyed String Tree) :
    (Tree.directory entries).encode
      = 2 :: (littleEndian 4 entries.length ++ encodeEntries entries []) :=
  rfl

theorem encode_file (data : Bytes) :
    (Tree.file data).encode
      = 1 :: (littleEndian 4 data.length ++ data) := by
  rw [Tree.encode, Tree.encodeBefore, List.append_nil]

/-- Something is written for every tree. -/
theorem length_encode_pos (tree : Tree) : 0 < tree.encode.length := by
  cases tree with
  | file data => simp [encode_file]
  | directory entries => simp [encode_directory]

/-- What is written for entries is the images that are written for their
trees, one after another. -/
theorem entries_encodeEntries
    (all : ∀ entry ∈ listed,
      (IsName entry.1 ∧ entry.1.utf8ByteSize ≤ maxNameLength)
        ∧ subtree entry.2.encode entry.2) :
    Entries subtree (encodeEntries listed []) listed := by
  induction listed with
  | nil => exact .nil
  | cons entry listed ih =>
    obtain ⟨⟨named, short⟩, first⟩ := all entry List.mem_cons_self
    rw [encodeEntries_cons]
    exact .cons named short first
      (ih fun other member => all other (List.mem_cons_of_mem _ member))

/-- Images that are what is written for each tree are what is written for
the entries. -/
theorem Entries.encodeEntries_eq
    (h : Entries (fun image tree => tree.encode = image) image listed) :
    encodeEntries listed [] = image := by
  induction h with
  | nil => rfl
  | cons named short first others ih =>
    rw [encodeEntries_cons, first, ih]

/-- The length of what is written for entries does not depend on their
order. -/
theorem length_encodeEntries_of_perm {listed entries : Keyed String Tree}
    (same : List.Perm listed entries) :
    (encodeEntries listed []).length = (encodeEntries entries []).length := by
  induction same with
  | nil => rfl
  | cons entry same ih =>
    obtain ⟨name, tree⟩ := entry
    simp only [encodeEntries_cons, List.length_append, ih]
  | swap first second rest =>
    obtain ⟨name, tree⟩ := first
    obtain ⟨other, otherTree⟩ := second
    simp only [encodeEntries_cons, List.length_append]
    omega
  | trans same others ih ihOthers => exact ih.trans ihOthers

theorem Entries.length_encodeEntries_eq
    (h : Entries (fun image tree => tree.encode.length = image.length)
      image listed) :
    (encodeEntries listed []).length = image.length := by
  induction h with
  | nil => rfl
  | cons named short first others ih =>
    rw [encodeEntries_cons]
    simp only [List.length_append, first, ih]

end Entries
/-! ### Trees that have an image -/

section Trees

variable {listing other : List String → Prop} {image : Bytes}
  {tree : Tree}

theorem IsImage.mono (h : IsImage listing image tree)
    (weaker : ∀ names, listing names → other names) :
    IsImage other image tree := by
  refine IsImage.induction ?_ ?_ h
  · intro data short
    exact .file data short
  · intro image listed entries allowed few images same sorted
    exact .directory (weaker _ allowed) few images same sorted

/-- Ascending names are different names. -/
theorem Ascending.nodup {names : List String} (h : Ascending names) :
    names.Nodup := by
  refine List.Pairwise.imp (fun below same => ?_) h
  subst same
  exact List.lt_irrefl _ below

/-- Ascending is the order in which a tree lists its entries. -/
theorem ascending_keys_iff {entries : Keyed String Tree} :
    Ascending (Keyed.keys entries) ↔ Keyed.Sorted entries := by
  unfold Ascending Keyed.Sorted
  simp only [nameBytes_lt_iff]

/-- Only well-formed trees have images. -/
theorem IsImage.wellFormed (h : IsImage listing image tree) :
    tree.WellFormed := by
  refine IsImage.induction ?_ ?_ h
  · intro data short
    exact True.intro
  · intro image listed entries allowed few images same sorted
    refine ⟨sorted, Tree.wellFormedEntries_iff.mpr ?_⟩
    intro entry member
    obtain ⟨named, piece, formed⟩ :=
      images.of_mem (same.mem_iff.mpr member)
    exact ⟨named, formed⟩

/-- All images of a tree are as long as what is written for it. -/
theorem IsImage.length_encode (h : IsImage listing image tree) :
    tree.encode.length = image.length := by
  refine IsImage.induction ?_ ?_ h
  · intro data short
    rw [encode_file]
  · intro image listed entries allowed few images same sorted
    have length := images.length_encodeEntries_eq
    rw [length_encodeEntries_of_perm same] at length
    rw [encode_directory]
    simp only [List.length_cons, List.length_append, length,
      Bytes.length_littleEndian]

/-- A tree that has an image is written as an image with ascending
names. -/
theorem IsImage.of_encode (h : IsImage listing image tree) :
    IsImage Ascending tree.encode tree := by
  refine IsImage.induction ?_ ?_ h
  · intro data short
    rw [encode_file]
    exact .file data short
  · intro image listed entries allowed few images same sorted
    rw [encode_directory]
    refine .directory (ascending_keys_iff.mpr sorted)
      (same.length_eq ▸ few) (entries_encodeEntries ?_)
      (List.Perm.refl _) sorted
    intro entry member
    obtain ⟨named, piece, first⟩ :=
      images.of_mem (same.mem_iff.mpr member)
    exact ⟨named, first⟩

/-- With ascending names there is one image of a tree only, the one that
is written. -/
theorem IsImage.encode_eq (h : IsImage Ascending image tree) :
    tree.encode = image := by
  refine IsImage.induction ?_ ?_ h
  · intro data short
    exact encode_file data
  · intro image listed entries allowed few images same sorted
    have sorted' := ascending_keys_iff.mp allowed
    obtain rfl := Keyed.Sorted.eq_of_perm sorted' sorted same
    rw [encode_directory, images.encodeEntries_eq]

/-- Every entry takes part in the length of what is written. -/
theorem length_encode_le_of_mem {entries : Keyed String Tree}
    {entry : String × Tree} (member : entry ∈ entries) :
    entry.2.encode.length ≤ (encodeEntries entries []).length := by
  induction entries with
  | nil => cases member
  | cons first rest ih =>
    rw [encodeEntries_cons]
    simp only [List.length_append]
    rcases List.mem_cons.mp member with rfl | member
    · omega
    · have := ih member
      omega

theorem length_le_length_encodeEntries (entries : Keyed String Tree) :
    entries.length ≤ (encodeEntries entries []).length := by
  induction entries with
  | nil => exact Nat.zero_le _
  | cons first rest ih =>
    rw [encodeEntries_cons]
    simp only [List.length_append, List.length_cons,
      Bytes.length_littleEndian]
    omega

/-- A well-formed tree is written as an image of it, if what is written
is not too long. -/
theorem isImage_encode (formed : tree.WellFormed)
    (fits : tree.encode.length < fieldLimit) :
    IsImage Ascending tree.encode tree := by
  induction tree using Tree.induction with
  | file data =>
    rw [encode_file] at fits ⊢
    simp only [List.length_cons, List.length_append] at fits
    exact .file data (by omega)
  | directory entries ih =>
    rw [encode_directory] at fits ⊢
    simp only [List.length_cons, List.length_append] at fits
    obtain ⟨sorted, named⟩ := formed
    have count := length_le_length_encodeEntries entries
    refine .directory (ascending_keys_iff.mpr sorted) (by omega)
      (entries_encodeEntries ?_) (List.Perm.refl _) sorted
    intro entry member
    obtain ⟨named, formed⟩ :=
      Tree.wellFormedEntries_iff.mp named entry member
    have piece := length_encode_le_of_mem member
    exact ⟨named, ih entry member formed (by omega)⟩

end Trees

end MountSpace.Proofs.Image
