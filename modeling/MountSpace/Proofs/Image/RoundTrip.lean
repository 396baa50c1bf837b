import MountSpace.Proofs.Image.Reading

/-!
# `MountSpace.Proofs.Image.RoundTrip`: writing and reading trees

* `decode_encode`: a well-formed tree whose image is not too long for its
  fields is read back from what is written for it, whatever follows. So
  two such trees are never written alike, and what is written for one is
  never the beginning of what is written for another.
* `decode_grammar`: a byte string is read exactly when it is an image by
  the grammar, and then it is as long as what would be written for the
  tree; it is the same where all names in it ascend.
-/

set_option autoImplicit false

namespace MountSpace.Proofs.Image

open MountSpace.Tree (reader decode)

/-- What is written for a tree is read back, and ends where it ends. -/
theorem run_reader_encode {tree : Tree} (formed : tree.WellFormed)
    (fits : tree.encode.length < fieldLimit) (rest : Bytes) :
    reader.run (tree.encode ++ rest) = some (tree, rest) :=
  run_reader_eq_some.mpr ⟨tree.encode, rfl,
    (isImage_encode formed fits).mono fun _ => Ascending.nodup⟩

/-- Reading undoes writing, for a tree alone and for one that is followed
by other bytes. Trees are told apart by what is written for them, and by
its beginning already. -/
theorem decode_encode {tree : Tree} (formed : tree.WellFormed)
    (fits : tree.encode.length < fieldLimit) :
    decode tree.encode = .ok tree
      ∧ (∀ rest, reader.run (tree.encode ++ rest) = some (tree, rest))
      ∧ ∀ other : Tree, other.WellFormed →
          other.encode.length < fieldLimit →
          (tree.encode = other.encode → tree = other)
            ∧ (tree.encode <+: other.encode →
                tree.encode = other.encode) := by
  have back := run_reader_encode formed fits
  refine ⟨?_, back, fun other formed' fits' => ⟨fun same => ?_, ?_⟩⟩
  · exact decode_eq_ok_iff.mpr
      ((isImage_encode formed fits).mono fun _ => Ascending.nodup)
  · have back' := run_reader_encode formed' fits' []
    rw [← same, back []] at back'
    exact congrArg Prod.fst (Option.some.inj back')
  · rintro ⟨rest, whole⟩
    -- The longer one is read from the front, which leaves nothing or more.
    have back' := run_reader_encode formed' fits' []
    rw [List.append_nil, ← whole, back rest] at back'
    have none : rest = [] := congrArg Prod.snd (Option.some.inj back')
    rw [← whole, none, List.append_nil]

/-- A directory with a file and another directory, and names of which one
is the beginning of the other. -/
def sample : Tree :=
  .directory
    [("a", .directory [("é", .file [0, 255]), ("ü", .directory [])]),
     ("ab", .file [])]

theorem decode_encode_sample :
    sample.WellFormed ∧ sample.encode.length < fieldLimit
      ∧ decode sample.encode = .ok sample := by
  have formed : sample.WellFormed := by decide +kernel
  have fits : sample.encode.length < fieldLimit := by decide +kernel
  exact ⟨formed, fits, (decode_encode formed fits).1⟩

/-- The byte strings that are read are the images by the grammar with no
name twice in a directory; all others are corrupted. An image that is
read is as long as what is written for its tree, and is that itself
exactly when the names in it ascend. -/
theorem decode_grammar (image : Bytes) :
    (∀ tree, decode image = .ok tree ↔ IsImage List.Nodup image tree)
      ∧ (decode image = .error .corrupted
          ↔ ¬ ∃ tree, IsImage List.Nodup image tree)
      ∧ ∀ tree, decode image = .ok tree →
          tree.encode.length = image.length
            ∧ (tree.encode = image ↔ IsImage Ascending image tree) := by
  refine ⟨fun tree => decode_eq_ok_iff, ?_, fun tree read => ?_⟩
  · rw [decode_eq_error_iff, not_exists]
    exact ⟨fun failed => failed.2, fun none => ⟨rfl, none⟩⟩
  · have written := decode_eq_ok_iff.mp read
    refine ⟨written.length_encode, fun same => ?_, fun ascending => ?_⟩
    · have whole := written.of_encode
      rwa [same] at whole
    · exact ascending.encode_eq

end MountSpace.Proofs.Image
