import MountSpace.Proofs.Image.Grammar

/-!
# `MountSpace.Proofs.Image.Reading`: what is read is the grammar

A reader is sound for a format when all that it takes off the front of a
byte string is written in that format, and complete when it takes all
that is written so, whatever follows.

* `run_readName_eq_some`: the names that are read.
* `readEntries_sound`, `readEntries_complete`: a counted run of entries.
  The invariant is that the entries seen so far are in order and
  together with those still to come are all entries of the directory.
* `run_reader_eq_some`: a tree is read off the front of a byte string
  exactly when an image of it stands there. So the bound on the depth is
  never what a tree fails at.
* `decode_eq_ok_iff`, `decode_eq_error_iff`: a whole byte string stands
  for a tree when it is an image of it, and is corrupted otherwise.
-/

set_option autoImplicit false

namespace MountSpace.Proofs.Image

open MountSpace.Tree (nameBytes IsName readName readEntries reader decode)
open Bytes (littleEndian Reader)
open Bytes.Reader (run_bind_eq_some run_pure_eq_some run_byte_eq_some
  run_take_eq_some run_number_eq_some run_reject_ne_some)

/-! ### Readers and formats -/

section Formats

variable {α : Type}

/-- All that the reader takes is written in the format. -/
def Sound (reader : Reader α) (format : Bytes → α → Prop) : Prop :=
  ∀ ⦃data value rest⦄, reader.run data = some (value, rest) →
    ∃ image, data = image ++ rest ∧ format image value

/-- The reader takes all that is written in the format, and nothing of
what follows. -/
def Complete (reader : Reader α) (format : Bytes → α → Prop) : Prop :=
  ∀ ⦃image value⦄, format image value →
    ∀ rest, reader.run (image ++ rest) = some (value, rest)

end Formats

/-! ### Names -/

/-- A name is read exactly where its length and its bytes stand. -/
theorem run_readName_eq_some {data rest : Bytes} {name : String} :
    readName.run data = some (name, rest)
      ↔ (IsName name ∧ name.utf8ByteSize ≤ maxNameLength)
        ∧ data = littleEndian 1 name.utf8ByteSize
            ++ (nameBytes name ++ rest) := by
  unfold readName
  constructor
  · intro run
    obtain ⟨length, left, first, run₁⟩ := run_bind_eq_some.mp run
    obtain ⟨small, rfl⟩ := run_number_eq_some.mp first
    obtain ⟨bytes, left, second, run₂⟩ := run_bind_eq_some.mp run₁
    obtain ⟨rfl, rfl⟩ := run_take_eq_some.mp second
    -- The bytes have to be text, and the text a name.
    split at run₂
    · rename_i found utf8
      obtain rfl := fromUTF8?_eq_some_iff.mp utf8
      split at run₂
      · rename_i named
        obtain ⟨rfl, rfl⟩ := run_pure_eq_some.mp run₂
        exact ⟨⟨named, Nat.lt_succ_iff.mp small⟩, rfl⟩
      · exact absurd run₂ run_reject_ne_some
    · exact absurd run₂ run_reject_ne_some
  · -- A short name has a length that fits one byte.
    rintro ⟨⟨named, short⟩, rfl⟩
    have small : name.utf8ByteSize < Bytes.numberLimit 1 := Nat.lt_succ_of_le short
    refine run_bind_eq_some.mpr
      ⟨_, _, run_number_eq_some.mpr ⟨small, rfl⟩, ?_⟩
    refine run_bind_eq_some.mpr
      ⟨_, _, run_take_eq_some.mpr ⟨rfl, length_nameBytes name⟩, ?_⟩
    rw [fromUTF8?_eq_some_iff.mpr rfl]
    show (if IsName name then pure name else _ : Reader String).run rest
      = some (name, rest)
    rw [if_pos named]
    rfl

/-! ### Entries -/

theorem sorted_nil : Keyed.Sorted ([] : Keyed String Tree) :=
  List.Pairwise.nil

section Entries

variable {readTree : Reader Tree} {subtree : Bytes → Tree → Prop}

/-- Entries that are read stand in the byte string one after another, and
are put to those seen before. -/
theorem readEntries_sound (sound : Sound readTree subtree) {count : Nat}
    {seen entries : Keyed String Tree} {data rest : Bytes}
    (sorted : Keyed.Sorted seen)
    (run : (readEntries readTree count seen).run data
      = some (entries, rest)) :
    ∃ image listed, data = image ++ rest ∧ listed.length = count
      ∧ Entries subtree image listed ∧ (listed ++ seen).Perm entries
      ∧ Keyed.Sorted entries := by
  -- The entries read so far are in `seen`, which grows with each one.
  induction count generalizing seen data with
  | zero =>
    obtain ⟨rfl, rfl⟩ := run_pure_eq_some.mp run
    exact ⟨[], [], rfl, rfl, .nil, List.Perm.refl _, sorted⟩
  | succ count ih =>
    rw [readEntries] at run
    obtain ⟨name, left, first, run₁⟩ := run_bind_eq_some.mp run
    obtain ⟨⟨named, short⟩, rfl⟩ := run_readName_eq_some.mp first
    obtain ⟨tree, left, second, run₂⟩ := run_bind_eq_some.mp run₁
    obtain ⟨image, rfl, written⟩ := sound second
    split at run₂
    · exact absurd run₂ run_reject_ne_some
    · rename_i absent
      rw [Keyed.contains_eq_true_iff] at absent
      obtain ⟨images, listed, rfl, rfl, others, same, sorted⟩ :=
        ih (sorted.insert name tree) run₂
      refine ⟨_, (name, tree) :: listed, ?_, rfl,
        .cons named short written others, ?_, sorted⟩
      · simp only [List.append_assoc]
      · -- It is the same to put an entry to those seen before as to read it last.
        have moved := (Keyed.perm_insert absent tree).append_left listed
        exact (List.perm_middle.symm.trans moved.symm).trans same

/-- Entries that stand at the front of a byte string under different names
are read. -/
theorem readEntries_complete (complete : Complete readTree subtree)
    {image : Bytes} {listed seen : Keyed String Tree}
    (images : Entries subtree image listed)
    (sorted : Keyed.Sorted seen)
    (distinct : (Keyed.keys (listed ++ seen)).Nodup) (rest : Bytes) :
    ∃ entries,
      (readEntries readTree listed.length seen).run (image ++ rest)
        = some (entries, rest)
      ∧ (listed ++ seen).Perm entries ∧ Keyed.Sorted entries := by
  -- The names that are still to come and those seen are all different.
  induction images generalizing seen with
  | nil => exact ⟨seen, rfl, List.Perm.refl _, sorted⟩
  | @cons name tree image images listed named short first _ ih =>
    have moved : ((name, tree) :: listed ++ seen).Perm
        (listed ++ (name, tree) :: seen) := List.perm_middle.symm
    have distinct' := (moved.map Prod.fst).nodup_iff.mp distinct
    have absent : name ∉ Keyed.keys seen := by
      intro member
      obtain ⟨entry, entryMember, same⟩ := List.mem_map.mp member
      exact (List.nodup_cons.mp distinct).1
        (List.mem_map.mpr
          ⟨entry, List.mem_append_right listed entryMember, same⟩)
    have put := (Keyed.perm_insert absent tree).append_left listed
    obtain ⟨entries, run, same, sorted⟩ := ih
      (sorted.insert name tree)
      ((put.map Prod.fst).nodup_iff.mpr distinct')
    refine ⟨entries, ?_, (moved.trans put.symm).trans same, sorted⟩
    simp only [List.append_assoc]
    refine run_bind_eq_some.mpr
      ⟨name, _, run_readName_eq_some.mpr ⟨⟨named, short⟩, rfl⟩, ?_⟩
    refine run_bind_eq_some.mpr ⟨tree, _, complete first _, ?_⟩
    rw [if_neg (mt (Keyed.contains_eq_true_iff seen name).mp absent)]
    exact run

end Entries

/-! ### Trees -/

/-- A directory that lists its entries under different names, in any
order. -/
theorem keys_nodup_of_perm {listed entries : Keyed String Tree}
    (same : listed.Perm entries) (sorted : Keyed.Sorted entries) :
    (Keyed.keys listed).Nodup :=
  (same.map Prod.fst).nodup_iff.mpr sorted.nodup

/-- Whatever the depth, what is read is an image. -/
theorem read_sound (depth : Nat) :
    Sound (Tree.read depth) (IsImage List.Nodup) := by
  -- The entries of a directory are read with one level less.
  induction depth with
  | zero => exact fun _ _ _ run => absurd run run_reject_ne_some
  | succ depth ih =>
    intro data tree rest run
    rw [Tree.read] at run
    obtain ⟨tag, left, first, run₁⟩ := run_bind_eq_some.mp run
    obtain rfl := run_byte_eq_some.mp first
    split at run₁
    · rename_i one
      subst one
      obtain ⟨length, left, second, run₂⟩ := run_bind_eq_some.mp run₁
      obtain ⟨small, rfl⟩ := run_number_eq_some.mp second
      obtain ⟨bytes, left, third, run₃⟩ := run_bind_eq_some.mp run₂
      obtain ⟨rfl, rfl⟩ := run_take_eq_some.mp third
      obtain ⟨rfl, rfl⟩ := run_pure_eq_some.mp run₃
      refine ⟨_, ?_, .file bytes small⟩
      simp only [List.cons_append, List.append_assoc]
    · split at run₁
      · rename_i two
        subst two
        obtain ⟨count, left, second, run₂⟩ := run_bind_eq_some.mp run₁
        obtain ⟨small, rfl⟩ := run_number_eq_some.mp second
        obtain ⟨entries, left, third, run₃⟩ := run_bind_eq_some.mp run₂
        obtain ⟨image, listed, rfl, rfl, images, same, sorted⟩ :=
          readEntries_sound ih sorted_nil third
        obtain ⟨rfl, rfl⟩ := run_pure_eq_some.mp run₃
        rw [List.append_nil] at same
        refine ⟨_, ?_, .directory (keys_nodup_of_perm same sorted) small
          images same sorted⟩
        simp only [List.cons_append, List.append_assoc]
      · -- There is no third kind of node.
        exact absurd run₁ run_reject_ne_some

/-- An image is read if the depth is not less than its length. -/
theorem read_complete {image : Bytes} {tree : Tree}
    (h : IsImage List.Nodup image tree) :
    ∀ depth, image.length ≤ depth →
      ∀ rest, (Tree.read depth).run (image ++ rest) = some (tree, rest) := by
  refine IsImage.induction ?_ ?_ h
  · intro data short depth deep rest
    obtain ⟨depth, rfl⟩ : ∃ less, depth = less + 1 :=
      Nat.exists_eq_add_one.mpr (Nat.lt_of_lt_of_le (Nat.succ_pos _) deep)
    rw [Tree.read, List.cons_append, List.append_assoc]
    refine run_bind_eq_some.mpr ⟨1, _, run_byte_eq_some.mpr rfl, ?_⟩
    rw [if_pos rfl]
    refine run_bind_eq_some.mpr
      ⟨_, _, run_number_eq_some.mpr ⟨short, rfl⟩, ?_⟩
    exact run_bind_eq_some.mpr
      ⟨data, rest, run_take_eq_some.mpr ⟨rfl, rfl⟩, rfl⟩
  · intro image listed entries distinct few images same sorted depth deep
      rest
    obtain ⟨depth, rfl⟩ : ∃ less, depth = less + 1 :=
      Nat.exists_eq_add_one.mpr (Nat.lt_of_lt_of_le (Nat.succ_pos _) deep)
    rw [List.length_cons, List.length_append] at deep
    -- One level deeper there is room for every entry.
    have written : Entries (fun image tree => ∀ rest,
        (Tree.read depth).run (image ++ rest) = some (tree, rest))
        image listed :=
      images.imp fun piece tree le found => found depth (by omega)
    obtain ⟨found, run, perm, sorted'⟩ := readEntries_complete
      (fun _ _ reads => reads) written sorted_nil
      (by rwa [List.append_nil]) rest
    rw [List.append_nil] at perm
    -- Both lists are in order, so they are the same.
    obtain rfl := sorted'.eq_of_perm sorted (perm.symm.trans same)
    rw [Tree.read, List.cons_append, List.append_assoc]
    refine run_bind_eq_some.mpr ⟨2, _, run_byte_eq_some.mpr rfl, ?_⟩
    rw [if_neg (by decide), if_pos rfl]
    refine run_bind_eq_some.mpr
      ⟨_, _, run_number_eq_some.mpr ⟨few, rfl⟩, ?_⟩
    exact run_bind_eq_some.mpr ⟨found, rest, run, rfl⟩

/-- A tree is read off the front of a byte string exactly when an image of
it stands there. -/
theorem run_reader_eq_some {data rest : Bytes} {tree : Tree} :
    reader.run data = some (tree, rest)
      ↔ ∃ image, data = image ++ rest
          ∧ IsImage List.Nodup image tree := by
  constructor
  · exact fun run => read_sound data.length run
  · rintro ⟨image, rfl, written⟩
    exact read_complete written _
      (by rw [List.length_append]; omega) rest

/-- No image is the beginning of another one. -/
theorem IsImage.eq_of_prefix {image other : Bytes} {tree second : Tree}
    (written : IsImage List.Nodup image tree)
    (writtenOther : IsImage List.Nodup other second)
    (front : image <+: other) : image = other := by
  obtain ⟨rest, rfl⟩ := front
  -- Read as the longer one nothing is left over, and as the shorter one
  -- the rest is.
  have whole := run_reader_eq_some.mpr
    ⟨image ++ rest, (List.append_nil _).symm, writtenOther⟩
  have part : reader.run (image ++ rest) = some (tree, rest) :=
    run_reader_eq_some.mpr ⟨image, rfl, written⟩
  have none : rest = [] :=
    congrArg Prod.snd (Option.some.inj (part.symm.trans whole))
  rw [none, List.append_nil]

/-- A byte string stands for a tree exactly when it is an image of it. -/
theorem decode_eq_ok_iff {image : Bytes} {tree : Tree} :
    decode image = .ok tree ↔ IsImage List.Nodup image tree := by
  have parsed : decode image = .ok tree
      ↔ Reader.parse? reader image = some tree := by
    unfold decode
    split <;> simp_all
  rw [parsed, Reader.parse?_eq_some, run_reader_eq_some]
  simp

/-- All other byte strings are corrupted. -/
theorem decode_eq_error_iff {image : Bytes} {fault : Fault} :
    decode image = .error fault
      ↔ fault = .corrupted ∧ ∀ tree, ¬ IsImage List.Nodup image tree := by
  constructor
  · intro failed
    refine ⟨?_, fun tree written => ?_⟩
    · unfold decode at failed
      split at failed
      · cases failed
      · cases failed
        rfl
    · rw [decode_eq_ok_iff.mpr written] at failed
      cases failed
  · rintro ⟨rfl, none⟩
    unfold decode
    split
    · rename_i tree found
      refine absurd (decode_eq_ok_iff.mp ?_) (none tree)
      rw [decode, found]
    · rfl

end MountSpace.Proofs.Image
