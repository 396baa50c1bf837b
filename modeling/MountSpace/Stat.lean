/-!
# `MountSpace.Stat`: what is known of a path

A path names a file, which has a size, or a directory, which counts as
empty.
-/

set_option autoImplicit false

namespace MountSpace

/-- What a path names. -/
inductive FileKind where
  | file
  | directory
  deriving DecidableEq, Repr

/-- The number of a kind. -/
def FileKind.code : FileKind → Nat
  | .file => 1
  | .directory => 2

/-- What a path names, and its size in bytes. -/
structure Stat where
  kind : FileKind
  size : Nat
  deriving DecidableEq, Repr

namespace Stat

/-- A file of the given size. -/
def file (size : Nat) : Stat := ⟨.file, size⟩

/-- A directory. -/
def directory : Stat := ⟨.directory, 0⟩

/-- Whether the path names a file. -/
def isFile (stat : Stat) : Bool := stat.kind == .file

/-- Whether the path names a directory. -/
def isDirectory (stat : Stat) : Bool := stat.kind == .directory

end Stat

end MountSpace
