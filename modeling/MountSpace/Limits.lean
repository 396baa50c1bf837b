/-!
# `MountSpace.Limits`: the fixed numbers of the library

Sizes, positions and block numbers are machine words of 64 bits. They
are kept as natural numbers, and `wordLimit` is the first number that is
no word.
-/

set_option autoImplicit false

namespace MountSpace

/-- The first number that does not fit a machine word. -/
def wordLimit : Nat := 0x1_0000_0000_0000_0000

/-- The first number of bytes that no byte string can have. -/
def sizeLimit : Nat := 0x8000_0000_0000_0000

/-- The first number that does not fit a field of a superblock. -/
def fieldLimit : Nat := 0x1_0000_0000

/-- The signed number that has the same bits as a word. -/
def signedWord (word : Nat) : Int :=
  Int.bmod word wordLimit

theorem signedWord_of_lt {word : Nat} (small : word < sizeLimit) :
    signedWord word = word := by
  apply Int.bmod_eq_of_le <;> simp only [wordLimit, sizeLimit] at * <;> omega

/-- The longest name of a directory entry, in bytes. -/
def maxNameLength : Nat := 255

/-- Descriptors below this one belong to the standard streams. -/
def reservedDescriptors : Nat := 3

/-- The size of a descriptor table that is not given one. -/
def defaultDescriptorLimit : Nat := 64

/-- The permissions of a file that is not given any: all may read and
write. -/
def defaultPermissions : UInt32 := 0o666

end MountSpace
