import MountSpace.Fault

/-!
# `MountSpace.OpenFlags`: what a file is opened for

A file is opened with a set of flags, kept as the bits of a word. Six
bits have a meaning; the others are carried along. Callers name a set
by a mode such as `"r"` or `"w+"`, which `OpenFlags.ofMode` looks up.
-/

set_option autoImplicit false

namespace MountSpace

/-- A set of flags, one bit each. -/
structure OpenFlags where
  bits : UInt32
  deriving DecidableEq, Repr

namespace OpenFlags

/-- Bytes may be read. -/
def read : OpenFlags := ⟨1⟩

/-- Bytes may be written. -/
def write : OpenFlags := ⟨2⟩

/-- A missing file is made. -/
def create : OpenFlags := ⟨4⟩

/-- Bytes may be written, at the end of the file only. -/
def append : OpenFlags := ⟨8⟩

/-- The file is made, and must not be there yet. -/
def exclusive : OpenFlags := ⟨16⟩

/-- The file is emptied. -/
def truncate : OpenFlags := ⟨32⟩

/-- The flags of both sets. -/
def union (left right : OpenFlags) : OpenFlags :=
  ⟨left.bits ||| right.bits⟩

instance : OrOp OpenFlags := ⟨union⟩

/-- Whether the sets have a flag in common. -/
def intersects (flags wanted : OpenFlags) : Bool :=
  flags.bits &&& wanted.bits != 0

/-- Whether no flag is set, known or not. -/
def isEmpty (flags : OpenFlags) : Bool :=
  flags.bits == 0

/-- Whether bytes may be read. -/
def readable (flags : OpenFlags) : Bool :=
  flags.intersects read

/-- Whether bytes may be written, anywhere or at the end. -/
def writable (flags : OpenFlags) : Bool :=
  flags.intersects (write ||| append)

/-- Whether a missing file is made. -/
def creates (flags : OpenFlags) : Bool :=
  flags.intersects (create ||| exclusive)

/-- Whether all bytes go to the end of the file. -/
def appends (flags : OpenFlags) : Bool :=
  flags.intersects append

/-- Whether the file must not be there yet. -/
def isExclusive (flags : OpenFlags) : Bool :=
  flags.intersects exclusive

/-- Whether the file is emptied. -/
def truncates (flags : OpenFlags) : Bool :=
  flags.intersects truncate

/-- A set has a flag in common with one of two sets, or with both. -/
theorem intersects_union (flags left right : OpenFlags) :
    flags.intersects (left ||| right)
      = (flags.intersects left || flags.intersects right) := by
  have bits : flags.bits &&& (left.bits ||| right.bits)
      = (flags.bits &&& left.bits) ||| (flags.bits &&& right.bits) := by
    rw [← UInt32.toBitVec_inj]
    exact BitVec.and_or_distrib_left
  show (flags.bits &&& (left.bits ||| right.bits) != 0) = _
  rw [bits, Bool.eq_iff_iff]
  simp only [intersects, bne_iff_ne, Bool.or_eq_true, ne_eq,
    UInt32.or_eq_zero_iff, Classical.not_and_iff_not_or_not]

/-- The flags that a mode stands for. The letters `s` and `x` may stand
before or after the first one; `s` asks for nothing. -/
def ofMode : String → Except Fault OpenFlags
  | "r" | "rs" | "sr" => .ok read
  | "r+" | "rs+" | "sr+" => .ok (read ||| write)
  | "w" => .ok (write ||| create ||| truncate)
  | "wx" | "xw" => .ok (write ||| exclusive)
  | "w+" => .ok (write ||| read ||| truncate)
  | "wx+" | "xw+" => .ok (write ||| read ||| exclusive)
  | "a" => .ok append
  | "ax" | "xa" => .ok (append ||| exclusive)
  | "a+" => .ok (append ||| read)
  | "ax+" | "xa+" => .ok (append ||| read ||| exclusive)
  | _ => .error .invalidArgument

end OpenFlags

end MountSpace
