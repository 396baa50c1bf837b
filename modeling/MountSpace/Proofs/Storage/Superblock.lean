import MountSpace.Volume.Superblock

/-!
# `MountSpace.Proofs.Storage.Superblock`: superblocks and their bytes

`run_read_eq_some` compares reading a superblock with writing one, in both
directions: what is read at the start of a byte string are exactly the
bytes that are written for it. So a superblock is found again whatever
follows it (`decode_append`), and only where it has been written
(`superblock_eq_ok_iff_take`).

A superblock is read from the front, one field after the other. `Marked` and
`fieldsOf` say the same by positions: what has to stand at the first six of
them, and where the numbers are found. `decode_eq_ite` compares the two, and
`decodes_iff_marked` says when a byte string has a superblock and which one.
-/

set_option autoImplicit false

namespace MountSpace.Proofs.Storage

open Bytes (littleEndian littleEndian_ofLittleEndian numberLimit
  ofLittleEndian ofLittleEndian_lt window_append_window)
open Bytes.Reader (run_bind_eq_some run_take_eq_some run_number_eq_some
  run_pure_eq_some run_reject_ne_some)

theorem length_encode (superblock : Superblock) :
    superblock.encode.length = Superblock.length := by
  simp only [Superblock.encode, List.length_append,
    Bytes.length_littleEndian]
  rfl

/-- Every number of four bytes is that of a field. -/
theorem toNat_ofNat_of_lt {value : Nat} (small : value < numberLimit 4) :
    (UInt32.ofNat value).toNat = value :=
  UInt32.toNat_ofNat_of_lt' small

theorem toNat_lt_numberLimit (field : UInt32) :
    field.toNat < numberLimit 4 :=
  field.toNat_lt

/-- What is read as a superblock is what is written for it. -/
theorem eq_append_of_run_read {superblock : Superblock} {data rest : Bytes}
    (run : Superblock.read.run data = some (superblock, rest)) :
    data = superblock.encode ++ rest := by
  -- Field by field, what is taken off the front is what is written.
  obtain ⟨mark, _, run₁, rest₁⟩ := run_bind_eq_some.mp run
  obtain ⟨rfl, _⟩ := run_take_eq_some.mp run₁
  by_cases marked : mark = Superblock.mark
  · rw [if_neg (not_not_intro marked)] at rest₁
    obtain ⟨version, _, run₂, rest₂⟩ := run_bind_eq_some.mp rest₁
    obtain ⟨_, rfl⟩ := run_number_eq_some.mp run₂
    by_cases current : version = Superblock.version
    · rw [if_neg (not_not_intro current)] at rest₂
      obtain ⟨size, _, run₃, rest₃⟩ := run_bind_eq_some.mp rest₂
      obtain ⟨small, rfl⟩ := run_number_eq_some.mp run₃
      obtain ⟨count, _, run₄, rest₄⟩ := run_bind_eq_some.mp rest₃
      obtain ⟨few, rfl⟩ := run_number_eq_some.mp run₄
      obtain ⟨length, _, run₅, rest₅⟩ := run_bind_eq_some.mp rest₄
      obtain ⟨short, rfl⟩ := run_number_eq_some.mp run₅
      obtain ⟨rfl, rfl⟩ := run_pure_eq_some.mp rest₅
      simp only [Superblock.encode, marked, current,
        toNat_ofNat_of_lt small, toNat_ofNat_of_lt few,
        toNat_ofNat_of_lt short, List.append_assoc]
    · rw [if_pos current] at rest₂
      exact absurd rest₂ run_reject_ne_some
  · rw [if_pos marked] at rest₁
    exact absurd rest₁ run_reject_ne_some

/-- What is written for a superblock is read as it. -/
theorem run_read_encode (superblock : Superblock) (rest : Bytes) :
    Superblock.read.run (superblock.encode ++ rest)
      = some (superblock, rest) := by
  -- The mark and the version are the right ones, so no field is refused.
  have take : (Bytes.Reader.take 4).run (superblock.encode ++ rest)
      = some (Superblock.mark, _) := run_take_eq_some.mpr ⟨by
        rw [Superblock.encode, List.append_assoc, List.append_assoc,
          List.append_assoc, List.append_assoc], rfl⟩
  refine run_bind_eq_some.mpr ⟨_, _, take, ?_⟩
  rw [if_neg (by simp)]
  refine run_bind_eq_some.mpr ⟨Superblock.version, _,
    run_number_eq_some.mpr ⟨by decide, rfl⟩, ?_⟩
  rw [if_neg (by simp)]
  refine run_bind_eq_some.mpr ⟨_, _,
    run_number_eq_some.mpr ⟨toNat_lt_numberLimit _, rfl⟩, ?_⟩
  refine run_bind_eq_some.mpr ⟨_, _,
    run_number_eq_some.mpr ⟨toNat_lt_numberLimit _, rfl⟩, ?_⟩
  refine run_bind_eq_some.mpr ⟨_, _,
    run_number_eq_some.mpr ⟨toNat_lt_numberLimit _, rfl⟩, ?_⟩
  simp only [UInt32.ofNat_toNat]
  exact run_pure_eq_some.mpr ⟨rfl, rfl⟩

theorem run_read_eq_some {superblock : Superblock} {data rest : Bytes} :
    Superblock.read.run data = some (superblock, rest)
      ↔ data = superblock.encode ++ rest := by
  constructor
  · exact eq_append_of_run_read
  · intro same
    rw [same]
    exact run_read_encode superblock rest

/-- A superblock is found at the start, whatever follows. -/
theorem decode_append (superblock : Superblock) (rest : Bytes) :
    Superblock.decode (superblock.encode ++ rest) = .ok superblock := by
  rw [Superblock.decode, Superblock.decode?, run_read_encode]
  rfl

section

variable {superblock : Superblock} {data : Bytes}

/-- A byte string has the superblock whose bytes it starts with. -/
theorem superblock_eq_ok_iff_starts :
    Superblock.decode data = .ok superblock
      ↔ superblock.encode <+: data := by
  constructor
  · intro found
    rw [Superblock.decode, Superblock.decode?] at found
    cases run : Superblock.read.run data with
    | none =>
      rw [run] at found
      cases found
    | some result =>
      obtain ⟨read, rest⟩ := result
      rw [run] at found
      cases found
      exact ⟨rest, (run_read_eq_some.mp run).symm⟩
  · rintro ⟨rest, rfl⟩
    exact decode_append superblock rest

theorem superblock_eq_ok_iff_take :
    Superblock.decode data = .ok superblock
      ↔ superblock.encode = data.take Superblock.length := by
  rw [superblock_eq_ok_iff_starts, List.prefix_iff_eq_take, length_encode]

/-! ### Superblocks by positions -/

/-- There is room for a superblock, and at its start stand the letters of
the mark and the version one, low byte first. -/
def Marked (data : Bytes) : Prop :=
  18 ≤ data.length ∧ data.window 0 4 = "BKFS".toUTF8.data.toList
    ∧ data.window 4 2 = [1, 0]

instance (data : Bytes) : Decidable (Marked data) :=
  inferInstanceAs (Decidable (_ ∧ _ ∧ _))

/-- The number that is written at a position. -/
def fieldAt (data : Bytes) (position : Nat) : UInt32 :=
  .ofNat (ofLittleEndian (data.window position 4))

/-- The numbers behind the mark and the version. -/
def fieldsOf (data : Bytes) : Superblock :=
  ⟨fieldAt data 6, fieldAt data 10, fieldAt data 14⟩

theorem littleEndian_fieldAt {position : Nat}
    (inside : position + 4 ≤ data.length) :
    littleEndian 4 (fieldAt data position).toNat = data.window position 4 := by
  have length : (data.window position 4).length = 4 := by
    rw [Bytes.window, List.length_take, List.length_drop]
    omega
  have small := ofLittleEndian_lt (data.window position 4)
  have back := littleEndian_ofLittleEndian (data.window position 4)
  rw [length] at small back
  rw [fieldAt, toNat_ofNat_of_lt small, back]

/-- What is written for the numbers that are found stands there already. -/
theorem encode_fieldsOf (marked : Marked data) :
    (fieldsOf data).encode = data.take Superblock.length := by
  obtain ⟨room, mark, version⟩ := marked
  -- The bytes are cut where the fields begin.
  have parts : data.take Superblock.length
      = data.window 0 4 ++ data.window 4 2 ++ data.window 6 4
        ++ data.window 10 4 ++ data.window 14 4 := by
    rw [window_append_window, window_append_window, window_append_window,
      window_append_window]
    rfl
  rw [parts, mark, version, ← littleEndian_fieldAt (by omega),
    ← littleEndian_fieldAt (by omega), ← littleEndian_fieldAt (by omega)]
  rfl

theorem marked_encode_append (superblock : Superblock) (rest : Bytes) :
    Marked (superblock.encode ++ rest) := by
  refine ⟨?_, rfl, rfl⟩
  rw [List.length_append, length_encode, Superblock.length]
  omega

/-- Reading a superblock from the front and looking at the positions of its
fields come to the same. -/
theorem decode_eq_ite (data : Bytes) :
    Superblock.decode data
      = if Marked data then .ok (fieldsOf data) else .error .corrupted := by
  by_cases marked : Marked data
  · rw [if_pos marked]
    exact superblock_eq_ok_iff_take.mpr (encode_fieldsOf marked)
  · rw [if_neg marked]
    cases found : Superblock.decode? data with
    | none => rw [Superblock.decode, found]
    | some superblock =>
      -- What is read has been written, and what is written is marked.
      have decoded : Superblock.decode data = .ok superblock := by
        rw [Superblock.decode, found]
      obtain ⟨rest, rfl⟩ := superblock_eq_ok_iff_starts.mp decoded
      exact absurd (marked_encode_append superblock rest) marked

theorem superblock_eq_ok_iff_fields :
    Superblock.decode data = .ok superblock
      ↔ Marked data ∧ superblock = fieldsOf data := by
  rw [decode_eq_ite]
  by_cases marked : Marked data
  · simp [marked, eq_comm]
  · simp [marked]

theorem superblock_eq_error_iff {fault : Fault} :
    Superblock.decode data = .error fault
      ↔ fault = .corrupted ∧ ¬ Marked data := by
  rw [decode_eq_ite]
  by_cases marked : Marked data
  · simp [marked]
  · simp [marked, eq_comm]

end

/-- A superblock is found again from what is written for it, whatever its
numbers are and whatever follows. A byte string has a superblock exactly
when it is marked; the numbers of it are those at their positions, and what
is written for it are the first eighteen bytes. Every other byte string is
corrupted. -/
theorem decodes_iff_marked :
    (∀ (blockSize blockCount imageLength : UInt32) (rest : Bytes),
      Superblock.decode
          ((Superblock.mk blockSize blockCount imageLength).encode ++ rest)
        = .ok ⟨blockSize, blockCount, imageLength⟩)
    ∧ ∀ data : Bytes,
      ((∃ superblock, Superblock.decode data = .ok superblock)
        ↔ Marked data)
      ∧ (∀ superblock, Superblock.decode data = .ok superblock →
        superblock = fieldsOf data ∧ superblock.encode = data.take 18)
      ∧ (Superblock.decode data = .error .corrupted ↔ ¬ Marked data) := by
  refine ⟨fun _ _ _ rest => decode_append _ rest, fun data => ⟨?_, ?_, ?_⟩⟩
  · constructor
    · rintro ⟨superblock, found⟩
      exact (superblock_eq_ok_iff_fields.mp found).1
    · intro marked
      exact ⟨_, superblock_eq_ok_iff_fields.mpr ⟨marked, rfl⟩⟩
  · intro superblock found
    exact ⟨(superblock_eq_ok_iff_fields.mp found).2,
      superblock_eq_ok_iff_take.mp found⟩
  · rw [superblock_eq_error_iff]
    exact and_iff_right rfl

/-- The version two is not read. -/
example : Superblock.decode
    [0x42, 0x4b, 0x46, 0x53, 2, 0, 0, 16, 0, 0, 16, 0, 0, 0, 5, 0, 0, 0]
      = .error .corrupted := rfl

end MountSpace.Proofs.Storage
