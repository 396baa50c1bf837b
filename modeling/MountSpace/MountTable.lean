import MountSpace.Fault
import MountSpace.Path
import MountSpace.Text

/-!
# `MountSpace.MountTable`: which volume a path belongs to

A mount says at which path a volume is seen. The table lists mounts by
the depth of their paths, the deepest first, and those of one depth in
the order in which they came. So the first mount that a path lies under
is the one with the longest path (`MountTable.find`).

A path lies under a mount when it is the path of the mount, or goes on
after it with a slash. What is left of it then is the path as the volume
sees it (`Mount.strip`). Every path lies under the root.
-/

set_option autoImplicit false

namespace MountSpace

/-- A volume seen at a path; `ρ` refers to the driver. -/
structure Mount (ρ : Type) where
  path : String
  fsType : String
  driver : ρ
  deriving DecidableEq, Repr

namespace Mount

variable {ρ : Type}

/-- The path as the volume sees it, if it lies under the mount. -/
def strip (mount : Mount ρ) (path : String) : Option String :=
  if mount.path = "/" then some path
  else
    match mount.path.toList.isPrefixOf? path.toList with
    | some [] => some "/"
    | some (char :: rest) =>
      if char = '/' then some (String.ofList (char :: rest)) else none
    | none => none

/-- A mount as text. -/
def text (mount : Mount ρ) : String :=
  Text.record "MountPoint"
    [("mount_path", Text.quote mount.path),
     ("fs_type", Text.quote mount.fsType)]

end Mount

/-- Mounts, the deepest paths first. -/
abbrev MountTable (ρ : Type) : Type := List (Mount ρ)

namespace MountTable

variable {ρ : Type}

/-- Whether something is mounted at exactly this path. -/
def contains (mounts : MountTable ρ) (path : String) : Bool :=
  mounts.any fun mount => mount.path == path

/-- Puts a mount behind those that are at least as deep. -/
def place (mount : Mount ρ) : MountTable ρ → MountTable ρ
  | [] => [mount]
  | other :: rest =>
    if Path.depth other.path < Path.depth mount.path then
      mount :: other :: rest
    else other :: place mount rest

/-- Adds a mount, at a path where there is none. -/
def insert (mounts : MountTable ρ) (mount : Mount ρ) :
    Except Fault (MountTable ρ) :=
  if mounts.contains mount.path then .error .alreadyExists
  else .ok (place mount mounts)

/-- Takes the mount at a path out of the table. -/
def remove : MountTable ρ → String → Except Fault (Mount ρ × MountTable ρ)
  | [], _ => .error .invalidArgument
  | mount :: rest, path =>
    if mount.path = path then .ok (mount, rest)
    else do
      let (found, rest) ← remove rest path
      return (found, mount :: rest)

/-- The first mount that a path lies under, and what is left of the
path. -/
def find : MountTable ρ → String → Except Fault (Mount ρ × String)
  | [], _ => .error .notFound
  | mount :: rest, path =>
    match mount.strip path with
    | some left => .ok (mount, left)
    | none => find rest path

/-- The mount at exactly this path. -/
def at? (mounts : MountTable ρ) (path : String) : Option (Mount ρ) :=
  List.find? (fun mount => mount.path == path) mounts

/-- The names of the mounts whose directory is the given one. -/
def children (mounts : MountTable ρ) (directory : String) :
    List String :=
  (List.filter (fun mount =>
    mount.path ≠ "/" && Path.parent mount.path == directory)
    mounts).filterMap fun mount => Path.fileName mount.path

/-- The table as text. -/
def text (mounts : MountTable ρ) : String :=
  Text.record "MountTable" [("mounts", Text.list (mounts.map Mount.text))]

end MountTable

end MountSpace
