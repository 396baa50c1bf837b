import MountSpace.Bytes

/-!
# `MountSpace.Bytes.Packed`: byte strings in one piece of memory

What is written to again and again at its end is kept in one piece of
memory, where a write does not have to walk to its place.
`Packed.toBytes` is the byte string that is kept, and the operations are
those on byte strings (`toBytes_splice`, `window_eq`).
-/

set_option autoImplicit false

namespace MountSpace

/-- A byte string in one piece of memory. -/
abbrev Packed : Type := ByteArray

namespace Packed

/-- The byte string that is kept. -/
def toBytes (data : Packed) : Bytes := data.data.toList

instance : DecidableEq Packed := ByteArray.instDecidableEq

instance : Repr Packed where
  reprPrec data := reprPrec (toBytes data)

/-- Adds zero bytes at the end. -/
def pad (data : Packed) : (count : Nat) → Packed
  | 0 => data
  | count + 1 => pad (data.push 0) count

/-- Writes `piece` over `data` from position `start` on. -/
def splice (data : Packed) (start : Nat) (piece : Bytes) : Packed :=
  pad (data.extract 0 start) (start - data.size) ++ piece.toByteArray
    ++ data.extract (start + piece.length) data.size

/-- At most `length` bytes of `data`, from position `start` on. -/
def window (data : Packed) (start length : Nat) : Bytes :=
  toBytes (data.extract start (min (start + length) data.size))

theorem length_toBytes (data : Packed) :
    (toBytes data).length = data.size := rfl

theorem toBytes_extract (data : Packed) (start stop : Nat) :
    toBytes (data.extract start stop)
      = ((toBytes data).drop start).take (stop - start) := by
  simp only [toBytes, ByteArray.data_extract, Array.toList_extract,
    List.extract]

theorem toBytes_pad (data : Packed) (count : Nat) :
    toBytes (pad data count) = toBytes data ++ Bytes.zeros count := by
  induction count generalizing data with
  | zero => simp [pad, Bytes.zeros]
  | succ count ih =>
    have pushed : toBytes (data.push 0) = toBytes data ++ [0] :=
      Array.toList_push
    rw [pad, ih, pushed, List.append_assoc]
    rfl

theorem toBytes_append (data more : Packed) :
    toBytes (data ++ more) = toBytes data ++ toBytes more := by
  simp [toBytes, ByteArray.data_append]

theorem toBytes_splice (data : Packed) (start : Nat) (piece : Bytes) :
    toBytes (splice data start piece)
      = Bytes.splice (toBytes data) start piece := by
  -- What is left of the old contents ends where they end.
  have rest : ((toBytes data).drop (start + piece.length)).take
      (data.size - (start + piece.length))
        = (toBytes data).drop (start + piece.length) :=
    List.take_of_length_le (by simp [length_toBytes])
  have packed : toBytes piece.toByteArray = piece := by simp [toBytes]
  rw [splice, toBytes_append, toBytes_append, toBytes_pad, packed,
    toBytes_extract, toBytes_extract, rest]
  simp [Bytes.splice, length_toBytes]

theorem window_eq (data : Packed) (start length : Nat) :
    window data start length
      = Bytes.window (toBytes data) start length := by
  rw [window, toBytes_extract, Bytes.window, List.take_eq_take_iff,
    List.length_drop, length_toBytes]
  omega

end Packed

end MountSpace
