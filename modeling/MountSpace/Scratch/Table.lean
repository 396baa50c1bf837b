import MountSpace.Bytes.Packed
import MountSpace.Driver
import MountSpace.Keyed
import MountSpace.Path

/-!
# `MountSpace.Scratch.Table`: a flat table of files

A scratch volume keeps its files and directories in a flat table under
their whole paths, which it takes as they are written. This module holds
the state of such a volume and all that it does without its device.

* `Scratch.prepare`, `read`, `stat`, `makeDirectory`, `removeDirectory`,
  `list`, `rename`, `unlink`: what an operation answers, or the table
  after it.
* `Scratch.children`: the paths in a directory, which are those that have
  it as their parent.
* `Scratch.rename` moves entries one by one, in the order of their paths,
  so a moved entry can take the place of one that has yet to move.
-/

set_option autoImplicit false

namespace MountSpace

namespace Scratch

/-- What is in the table under a path. -/
inductive Entry where
  | file (data : Packed)
  | directory
  deriving DecidableEq, Repr

/-- An open file. -/
structure Handle where
  path : String
  flags : OpenFlags
  cursor : Nat
  deriving DecidableEq, Repr

end Scratch

/-- A scratch volume. -/
structure Scratch where
  mounted : Bool
  entries : Keyed String Scratch.Entry
  handles : Keyed FileId Scratch.Handle
  nextId : FileId
  mountRequests : Nat
  formatRequests : Nat
  unmountRequests : Nat
  refusesClose : Bool
  refusesUnmount : Bool
  deriving DecidableEq, Repr

namespace Scratch

/-- A scratch volume that has not been mounted yet. -/
def fresh : Scratch where
  mounted := false
  entries := []
  handles := []
  nextId := 0
  mountRequests := 0
  formatRequests := 0
  unmountRequests := 0
  refusesClose := false
  refusesUnmount := false

/-- The table of an empty scratch volume. -/
def rootOnly : Keyed String Entry := [("/", .directory)]

/-- Has the volume refuse to close files or to be unmounted, or not,
where that is given. -/
def setRefusals (scratch : Scratch) (close unmount : Option Bool) :
    Scratch :=
  { scratch with
    refusesClose := close.getD scratch.refusesClose
    refusesUnmount := unmount.getD scratch.refusesUnmount }

/-- What is under a path. -/
def entry? (scratch : Scratch) (path : String) : Option Entry :=
  Keyed.get? scratch.entries path

/-- Puts an entry under a path. -/
def putEntry (scratch : Scratch) (path : String) (entry : Entry) :
    Scratch :=
  { scratch with entries := Keyed.insert scratch.entries path entry }

/-- Takes out what is under a path. -/
def removeEntry (scratch : Scratch) (path : String) : Scratch :=
  { scratch with entries := Keyed.erase scratch.entries path }

/-- Replaces an open file. -/
def setHandle (scratch : Scratch) (file : FileId) (handle : Handle) :
    Scratch :=
  { scratch with handles := Keyed.insert scratch.handles file handle }

/-- The paths whose directory is `path`, in order. -/
def children (scratch : Scratch) (path : String) : List String :=
  (Keyed.keys scratch.entries).filter fun key =>
    key ≠ path && Path.parent key == path

/-- The directory that a path is in has to be there. -/
def requireParent (scratch : Scratch) (path : String) :
    Except Fault Unit :=
  match scratch.entry? (Path.parent path) with
  | some .directory => .ok ()
  | some (.file _) => .error .notDirectory
  | none => .error .notFound

/-! ### Operations -/

/-- Makes room in the table for a file that is opened. -/
def prepare (scratch : Scratch) (path : String) (flags : OpenFlags) :
    Except Fault Scratch :=
  match scratch.entry? path with
  | some .directory => .error .isDirectory
  | some (.file _) =>
    if flags.isExclusive then .error .alreadyExists
    else if flags.truncates then .ok (scratch.putEntry path (.file .empty))
    else .ok scratch
  | none =>
    if flags.creates then do
      scratch.requireParent path
      return scratch.putEntry path (.file .empty)
    else .error .notFound

/-- The open file with the given number. -/
def handle (scratch : Scratch) (file : FileId) : Except Fault Handle :=
  match Keyed.get? scratch.handles file with
  | some handle => .ok handle
  | none => .error .badDescriptor

/-- The contents of an open file. -/
def contents (scratch : Scratch) (handle : Handle) :
    Except Fault Packed :=
  match scratch.entry? handle.path with
  | some (.file data) => .ok data
  | _ => .error .notFound

/-- Reads from an open file, at most up to its end. -/
def read (scratch : Scratch) (file : FileId) (length : Nat)
    (position : Option Nat) : Except Fault (Bytes × Scratch) := do
  let handle ← scratch.handle file
  if !handle.flags.readable then throw .badDescriptor
  let data ← scratch.contents handle
  let start := min (position.getD handle.cursor) data.size
  let found := data.window start length
  let handle := { handle with cursor := start + found.length }
  return (found, scratch.setHandle file handle)

/-- What a path names. -/
def stat (scratch : Scratch) (path : String) : Except Fault Stat :=
  match scratch.entry? path with
  | some (.file data) => .ok (.file data.size)
  | some .directory => .ok .directory
  | none => .error .notFound

/-- Makes a directory where nothing is. -/
def makeDirectory (scratch : Scratch) (path : String) :
    Except Fault Scratch :=
  match scratch.entry? path with
  | some _ => .error .alreadyExists
  | none => do
    scratch.requireParent path
    return scratch.putEntry path .directory

/-- Removes an empty directory, which cannot be the root. -/
def removeDirectory (scratch : Scratch) (path : String) :
    Except Fault Scratch :=
  match scratch.entry? path with
  | some .directory =>
    if path = "/" then .error .invalidArgument
    else if !(scratch.children path).isEmpty then
      .error .directoryNotEmpty
    else .ok (scratch.removeEntry path)
  | some (.file _) => .error .notDirectory
  | none => .error .notFound

/-- The names in a directory, in the order of their paths. -/
def list (scratch : Scratch) (path : String) :
    Except Fault (List String) :=
  match scratch.entry? path with
  | some .directory =>
    .ok ((scratch.children path).filterMap Path.fileName)
  | some (.file _) => .error .notDirectory
  | none => .error .notFound

/-- What follows `source` in the path of an entry that goes along when
`source` is moved. -/
def tail? (source path : String) : Option (List Char) :=
  match source.toList.isPrefixOf? path.toList with
  | some [] => some []
  | some (char :: rest) =>
    if char = '/' then some (char :: rest) else none
  | none => none

/-- Moves one entry. -/
def moveEntry (source target : String) (scratch : Scratch)
    (path : String) : Scratch :=
  match tail? source path, scratch.entry? path with
  | some tail, some entry =>
    (scratch.removeEntry path).putEntry (target ++ String.ofList tail) entry
  | _, _ => scratch

/-- Moves an entry and all those below it, in the order of their paths.
What is at the target is replaced. -/
def rename (scratch : Scratch) (source target : String) :
    Except Fault Scratch :=
  match scratch.entry? source with
  | none => .error .notFound
  | some _ => do
    scratch.requireParent target
    let along := (Keyed.keys scratch.entries).filter fun path =>
      (tail? source path).isSome
    return along.foldl (moveEntry source target) scratch

/-- Removes a file. -/
def unlink (scratch : Scratch) (path : String) : Except Fault Scratch :=
  match scratch.entry? path with
  | some (.file _) => .ok (scratch.removeEntry path)
  | some .directory => .error .isDirectory
  | none => .error .notFound

end Scratch

end MountSpace
