/-!
# `MountSpace.Text.CharSet`: sets of characters, as ranges

A set of characters is given by the first and the last of each range of
them, as code points. A range may also cover numbers that no character
has.
-/

set_option autoImplicit false

namespace MountSpace

/-- A set of characters: the first and last of each range of them. -/
abbrev CharSet : Type := List (Nat × Nat)

namespace CharSet

/-- Whether a character is in the set. -/
def contains (set : CharSet) (char : Char) : Bool :=
  set.any fun (first, last) =>
    first ≤ char.toNat && char.toNat ≤ last

end CharSet

end MountSpace
