/-!
# `MountSpace.Bytes`: byte strings

Files, buffers and blocks are strings of bytes. The module holds what
the rest of the library does with them:

* `Bytes.splice`: one byte string written over another from a given
  position on, with zeros between the end of the old contents and a
  position past it (`length_splice`). Two pieces one behind the other are
  as good as one (`splice_splice`).
* `Bytes.window`: the part of a byte string at a position. What was
  written is found there (`window_splice`).
* `Bytes.littleEndian` and `Bytes.ofLittleEndian`: numbers of a given
  width, lowest byte first. Each undoes the other
  (`ofLittleEndian_littleEndian`, `littleEndian_ofLittleEndian`).
* `Bytes.Reader`: a reader that takes bytes off the front, or refuses.
  It gets back the number that was written (`run_number`), and the
  lemmas `run_…_eq_some` say what it accepts.
-/

set_option autoImplicit false

namespace MountSpace

/-- A byte string. -/
abbrev Bytes : Type := List UInt8

namespace Bytes

/-- The given number of zero bytes. -/
def zeros (count : Nat) : Bytes :=
  List.replicate count 0

/-- Writes `piece` over `data` from position `start` on. -/
def splice (data : Bytes) (start : Nat) (piece : Bytes) : Bytes :=
  -- The zeros are none unless the piece starts past the end.
  data.take start ++ (zeros (start - data.length)
    ++ (piece ++ data.drop (start + piece.length)))

/-- At most `length` bytes of `data`, from position `start` on. -/
def window (data : Bytes) (start length : Nat) : Bytes :=
  (data.drop start).take length

theorem length_splice (data : Bytes) (start : Nat) (piece : Bytes) :
    (splice data start piece).length
      = max data.length (start + piece.length) := by
  simp only [splice, zeros, List.length_append, List.length_take,
    List.length_replicate, List.length_drop]
  omega

/-- What there is up to the end of a piece that was written. -/
theorem length_spliced (data : Bytes) (start : Nat) (piece : Bytes) :
    (data.take start ++ (zeros (start - data.length) ++ piece)).length
      = start + piece.length := by
  simp only [zeros, List.length_append, List.length_take,
    List.length_replicate]
  omega

theorem splice_eq_append (data : Bytes) (start : Nat) (piece : Bytes) :
    splice data start piece
      = (data.take start ++ (zeros (start - data.length) ++ piece))
        ++ data.drop (start + piece.length) := by
  simp only [splice, List.append_assoc]

theorem take_splice (data : Bytes) (start : Nat) (piece : Bytes) :
    (splice data start piece).take (start + piece.length)
      = data.take start ++ (zeros (start - data.length) ++ piece) := by
  rw [splice_eq_append, List.take_left' (length_spliced data start piece)]

/-- Behind the piece the old bytes are left. -/
theorem drop_splice (data : Bytes) (start : Nat) (piece : Bytes)
    (more : Nat) :
    (splice data start piece).drop (start + piece.length + more)
      = data.drop (start + piece.length + more) := by
  have behind : (splice data start piece).drop (start + piece.length)
      = data.drop (start + piece.length) := by
    rw [splice_eq_append, List.drop_left' (length_spliced data start piece)]
  rw [← List.drop_drop, behind, List.drop_drop]

/-- A piece that lies within the bytes is what they hold there, and the
others are as they were. -/
theorem getElem?_splice {data piece : Bytes} {start : Nat}
    (inside : start + piece.length ≤ data.length) (index : Nat) :
    (splice data start piece)[index]?
      = if start ≤ index ∧ index < start + piece.length
        then piece[index - start]? else data[index]? := by
  have before : (data.take start).length = start := by
    rw [List.length_take]
    omega
  have none : start - data.length = 0 := by omega
  rw [splice, none, zeros, List.replicate_zero, List.nil_append]
  by_cases early : index < start
  · rw [List.getElem?_append_left (by omega),
      List.getElem?_take_of_lt early, if_neg (by omega)]
  rw [List.getElem?_append_right (by omega), before]
  by_cases late : start + piece.length ≤ index
  · rw [List.getElem?_append_right (by omega), List.getElem?_drop,
      if_neg (by omega)]
    congr 1
    omega
  · rw [List.getElem?_append_left (by omega), if_pos (by omega)]

/-- And it is found where it was written. -/
theorem window_splice {data piece : Bytes} {start : Nat}
    (inside : start ≤ data.length) :
    (splice data start piece).window start piece.length = piece := by
  have before : (data.take start).length = start := by
    rw [List.length_take]
    omega
  have none : start - data.length = 0 := by omega
  show ((splice data start piece).drop start).take piece.length = piece
  rw [splice, none, zeros, List.replicate_zero, List.nil_append,
    List.drop_left' before, List.take_left]

/-- What is found at a position, and then what follows it. -/
theorem window_append_drop (data : Bytes) (start length : Nat) :
    data.window start length
        ++ data.drop (start + (data.window start length).length)
      = data.drop start := by
  show (data.drop start).take length
    ++ data.drop (start + ((data.drop start).take length).length)
      = data.drop start
  rw [← List.drop_drop, List.length_take]
  rcases Nat.le_total length (data.drop start).length with short | whole
  · rw [Nat.min_eq_left short, List.take_append_drop]
  · rw [Nat.min_eq_right whole, List.take_of_length_le whole,
      List.drop_length, List.append_nil]

/-- A part and the one behind it are one part. -/
theorem window_append_window (data : Bytes) (start first second : Nat) :
    data.window start first ++ data.window (start + first) second
      = data.window start (first + second) := by
  show (data.drop start).take first ++ (data.drop (start + first)).take second
    = (data.drop start).take (first + second)
  rw [List.take_add, List.drop_drop]

/-- Two pieces one behind the other are written as one. -/
theorem splice_splice (data : Bytes) (start : Nat) (first second : Bytes) :
    splice (splice data start first) (start + first.length) second
      = splice data start (first ++ second) := by
  have full : start + first.length - (splice data start first).length = 0 := by
    rw [length_splice]
    omega
  rw [splice, take_splice, drop_splice, full, splice, List.length_append,
    ← Nat.add_assoc]
  simp [zeros]

/-! ### Numbers -/

/-- The lowest `width` bytes of a number, lowest first. -/
def littleEndian : (width value : Nat) → Bytes
  | 0, _ => []
  | width + 1, value => UInt8.ofNat value :: littleEndian width (value / 256)

/-- The number that the bytes stand for, lowest first. -/
def ofLittleEndian : Bytes → Nat
  | [] => 0
  | byte :: rest => byte.toNat + 256 * ofLittleEndian rest

@[simp]
theorem length_littleEndian (width value : Nat) :
    (littleEndian width value).length = width := by
  induction width generalizing value with
  | zero => rfl
  | succ width ih => simp [littleEndian, ih]

/-- The first number that does not fit so many bytes. -/
def numberLimit : (width : Nat) → Nat
  | 0 => 1
  | width + 1 => 256 * numberLimit width

theorem ofLittleEndian_littleEndian (width value : Nat) :
    ofLittleEndian (littleEndian width value)
      = value % numberLimit width := by
  induction width generalizing value with
  | zero => exact (Nat.mod_one value).symm
  | succ width ih =>
    have byte : (UInt8.ofNat value).toNat = value % 256 := by simp
    rw [littleEndian, ofLittleEndian, ih, byte, numberLimit, Nat.mod_mul]

theorem ofLittleEndian_lt (data : Bytes) :
    ofLittleEndian data < numberLimit data.length := by
  induction data with
  | nil => exact Nat.one_pos
  | cons byte rest ih =>
    have small := byte.toNat_lt
    rw [ofLittleEndian, List.length_cons, numberLimit]
    omega

/-- Every byte string is the number it stands for, written down. -/
theorem littleEndian_ofLittleEndian (data : Bytes) :
    littleEndian data.length (ofLittleEndian data) = data := by
  induction data with
  | nil => rfl
  | cons byte rest ih =>
    have small := byte.toNat_lt
    have first : UInt8.ofNat (byte.toNat + 256 * ofLittleEndian rest)
        = byte := by
      apply UInt8.toNat_inj.mp
      simp only [UInt8.toNat_ofNat']
      omega
    have others : (byte.toNat + 256 * ofLittleEndian rest) / 256
        = ofLittleEndian rest := by omega
    rw [ofLittleEndian, List.length_cons, littleEndian, first, others, ih]

/-! ### Readers -/

/-- Takes bytes off the front of a byte string, or refuses. -/
abbrev Reader (α : Type) : Type := StateT Bytes Option α

namespace Reader

/-- The next `count` bytes. -/
def take (count : Nat) : Reader Bytes :=
  StateT.mk fun data =>
    let taken := data.take count
    if taken.length = count then some (taken, data.drop count) else none

/-- The next byte. -/
def byte : Reader UInt8 :=
  StateT.mk fun
    | [] => none
    | first :: rest => some (first, rest)

/-- The number that the next `width` bytes stand for. -/
def number (width : Nat) : Reader Nat := do
  let data ← take width
  return ofLittleEndian data

/-- Refuses. -/
def reject {α : Type} : Reader α :=
  StateT.mk fun _ => none

theorem run_take (data rest : Bytes) :
    (take data.length).run (data ++ rest) = some (data, rest) := by
  simp only [take, StateT.run_mk, List.take_left, List.drop_left, if_pos]

theorem run_number (width value : Nat) (rest : Bytes) :
    (number width).run (littleEndian width value ++ rest)
      = some (value % numberLimit width, rest) := by
  have taken := run_take (littleEndian width value) rest
  rw [length_littleEndian] at taken
  simp [number, taken, ofLittleEndian_littleEndian]

/-- A reader made of two is done where the first one is done and the
second one goes on from there. -/
theorem run_bind_eq_some {α β : Type} {reader : Reader α}
    {next : α → Reader β} {data rest : Bytes} {value : β} :
    (reader >>= next).run data = some (value, rest)
      ↔ ∃ first left, reader.run data = some (first, left)
          ∧ (next first).run left = some (value, rest) := by
  simp only [StateT.run_bind, Option.bind_eq_bind,
    Option.bind_eq_some_iff, Prod.exists]

theorem run_pure_eq_some {α : Type} {value found : α}
    {data rest : Bytes} :
    (pure value : Reader α).run data = some (found, rest)
      ↔ value = found ∧ data = rest := by
  simp [StateT.run_pure]

theorem run_reject_ne_some {α : Type} {data rest : Bytes} {value : α} :
    ¬ (reject : Reader α).run data = some (value, rest) := by
  simp [reject]

theorem run_byte_eq_some {data rest : Bytes} {first : UInt8} :
    byte.run data = some (first, rest) ↔ data = first :: rest := by
  cases data with
  | nil => simp [byte]
  | cons other more => simp [byte]

theorem run_take_eq_some {count : Nat} {data taken rest : Bytes} :
    (take count).run data = some (taken, rest)
      ↔ data = taken ++ rest ∧ taken.length = count := by
  constructor
  · intro run
    simp only [take, StateT.run_mk, Option.ite_none_right_eq_some,
      Option.some.injEq, Prod.mk.injEq] at run
    obtain ⟨length, rfl, rfl⟩ := run
    exact ⟨(List.take_append_drop count data).symm, length⟩
  · rintro ⟨rfl, rfl⟩
    exact run_take taken rest

/-- The numbers that a reader finds are those that fit the width, written
down. -/
theorem run_number_eq_some {width value : Nat} {data rest : Bytes} :
    (number width).run data = some (value, rest)
      ↔ value < numberLimit width
          ∧ data = littleEndian width value ++ rest := by
  constructor
  · intro run
    obtain ⟨taken, left, first, last⟩ := run_bind_eq_some.mp run
    obtain ⟨rfl, rfl⟩ := run_take_eq_some.mp first
    obtain ⟨rfl, rfl⟩ := run_pure_eq_some.mp last
    exact ⟨ofLittleEndian_lt taken, by rw [littleEndian_ofLittleEndian]⟩
  · rintro ⟨small, rfl⟩
    rw [run_number, Nat.mod_eq_of_lt small]

/-- Reads a whole byte string; what is left over is refused. -/
def parse? {α : Type} (reader : Reader α) (data : Bytes) : Option α :=
  match reader.run data with
  | some (value, []) => some value
  | _ => none

theorem parse?_eq_some {α : Type} {reader : Reader α} {data : Bytes}
    {value : α} :
    reader.parse? data = some value
      ↔ reader.run data = some (value, []) := by
  unfold parse?
  constructor
  · intro parsed
    split at parsed
    · rename_i found run
      cases parsed
      exact run
    · cases parsed
  · intro run
    rw [run]

end Reader

end Bytes

end MountSpace
