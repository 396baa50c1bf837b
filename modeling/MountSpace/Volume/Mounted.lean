import MountSpace.Driver
import MountSpace.Limits
import MountSpace.Path
import MountSpace.Volume.Storage

/-!
# `MountSpace.Volume.Mounted`: a tree in use

A mounted volume is its tree, the files that are open, the number for
the next one to be opened, and the geometry of its device. An open file
is the path it is at, what it was opened for, and where the next
transfer starts.

An operation is planned before anything is changed: `Plan` says what is
mounted afterwards, whether the tree has to be written to the device
first, and what the answer is. Planning asks no device, so an operation
that is refused while it is planned has done nothing.
-/

set_option autoImplicit false

namespace MountSpace

/-- An open file. -/
structure Handle where
  /-- The names on the way to the file. -/
  path : List String
  /-- What the file was opened for. -/
  flags : OpenFlags
  /-- Where the next transfer starts. -/
  cursor : Nat
  deriving DecidableEq, Repr

/-- A tree in use. -/
structure Mounted where
  /-- The whole tree. -/
  root : Tree
  /-- The open files under their numbers. -/
  handles : Keyed FileId Handle
  /-- The number of the next file to be opened. After the greatest
  number comes zero again. -/
  nextId : FileId
  /-- The geometry of the device when it was mounted or formatted. -/
  geometry : Geometry
  deriving DecidableEq

/-- What an operation comes to. -/
structure Plan (α : Type) where
  /-- What is mounted afterwards. -/
  next : Mounted
  /-- Whether the tree is written to the device first. -/
  stores : Bool
  /-- The answer. -/
  value : α
  deriving DecidableEq

namespace Mounted

variable {α : Type}

/-- The tree stays as it is. -/
def keeping (mounted : Mounted) (value : α) : Plan α :=
  ⟨mounted, false, value⟩

/-- The tree is a new one. -/
def storing (mounted : Mounted) (root : Tree) (value : α) : Plan α :=
  ⟨{ mounted with root }, true, value⟩

/-- The open file with the given number. -/
def handle (mounted : Mounted) (file : FileId) : Except Fault Handle :=
  match Keyed.get? mounted.handles file with
  | some handle => .ok handle
  | none => .error .badDescriptor

/-- Replaces an open file. -/
def setHandle (mounted : Mounted) (file : FileId) (handle : Handle) :
    Mounted :=
  { mounted with handles := Keyed.insert mounted.handles file handle }

/-- Opens one more file. -/
def opening (mounted : Mounted) (path : List String) (flags : OpenFlags) :
    Mounted :=
  { mounted.setHandle mounted.nextId ⟨path, flags, 0⟩ with
    nextId := mounted.nextId + 1 }

/-- Opens a file. A missing one is made and a present one emptied as the
flags ask for. -/
def openFile (mounted : Mounted) (path : List String)
    (flags : OpenFlags) : Except Fault (Plan FileId) :=
  let opened := mounted.opening path flags
  match mounted.root.lookup path with
  | .ok (.directory _) => .error .isDirectory
  | .ok (.file data) =>
    if flags.isExclusive then .error .alreadyExists
    else if flags.truncates && !data.isEmpty then do
      let root ← mounted.root.put path (.file [])
      return opened.storing root mounted.nextId
    else return opened.keeping mounted.nextId
  | .error .notFound =>
    if flags.creates then do
      let root ← mounted.root.put path (.file [])
      return opened.storing root mounted.nextId
    else .error .notFound
  | .error fault => .error fault

/-- Reads from an open file, at most up to its end. -/
def read (mounted : Mounted) (file : FileId) (length : Nat)
    (position : Option Nat) : Except Fault (Plan Bytes) := do
  let handle ← mounted.handle file
  if !handle.flags.readable then throw .badDescriptor
  match ← mounted.root.lookup handle.path with
  | .directory _ => .error .isDirectory
  | .file data =>
    -- Nothing is read from past the end, and the place of the next
    -- transfer comes back to the end.
    let start := min (position.getD handle.cursor) data.length
    let found := data.window start length
    let handle := { handle with cursor := start + found.length }
    return (mounted.setHandle file handle).keeping found

/-- The open file with the given number, if it may be written to. -/
def writableHandle (mounted : Mounted) (file : FileId) :
    Except Fault Handle := do
  let handle ← mounted.handle file
  if !handle.flags.writable then throw .badDescriptor
  return handle

/-- Moves the place of the next transfer. -/
def seek (mounted : Mounted) (file : FileId) (handle : Handle)
    (position : Option Nat) : Plan Nat :=
  let cursor := position.getD handle.cursor
  (mounted.setHandle file { handle with cursor }).keeping 0

/-- The contents of an open file, and where a write to it starts that
is to end within the `capacity` of the device. -/
def target (mounted : Mounted) (handle : Handle) (length : Nat)
    (position : Option Nat) (capacity : Nat) :
    Except Fault (Bytes × Nat) := do
  match ← mounted.root.lookup handle.path with
  | .directory _ => .error .isDirectory
  | .file old =>
    let start :=
      if handle.flags.appends then old.length
      else position.getD handle.cursor
    -- A file that reaches past the capacity could not be stored, so its
    -- gap is not even filled.
    if capacity < start + length then .error .noSpace
    else return (old, start)

/-- Writes over the contents of an open file. -/
def write (mounted : Mounted) (file : FileId) (handle : Handle)
    (old : Bytes) (start : Nat) (data : Bytes) :
    Except Fault (Plan Nat) := do
  let root ←
    mounted.root.put handle.path (.file (old.splice start data))
  let handle := { handle with cursor := start + data.length }
  return (mounted.setHandle file handle).storing root data.length

/-- Closes an open file. -/
def close (mounted : Mounted) (file : FileId) :
    Except Fault (Plan Unit) := do
  let _ ← mounted.handle file
  let handles := Keyed.erase mounted.handles file
  return { mounted with handles }.keeping ()

/-- What a path names. -/
def stat (mounted : Mounted) (path : List String) :
    Except Fault (Plan Stat) := do
  let tree ← mounted.root.lookup path
  return mounted.keeping tree.stat

/-- Makes a directory where nothing is. -/
def makeDirectory (mounted : Mounted) (path : List String) :
    Except Fault (Plan Unit) :=
  match mounted.root.lookup path with
  | .ok _ => .error .alreadyExists
  | .error .notFound => do
    let root ← mounted.root.put path Tree.empty
    return mounted.storing root ()
  | .error fault => .error fault

/-- Removes an empty directory. -/
def removeDirectory (mounted : Mounted) (path : List String) :
    Except Fault (Plan Unit) := do
  match ← mounted.root.lookup path with
  | .file _ => .error .notDirectory
  | .directory (_ :: _) => .error .directoryNotEmpty
  | .directory [] =>
    let root ← mounted.root.remove path
    return mounted.storing root ()

/-- The names in a directory, in order. -/
def list (mounted : Mounted) (path : List String) :
    Except Fault (Plan (List String)) := do
  match ← mounted.root.lookup path with
  | .file _ => .error .notDirectory
  | .directory entries => return mounted.keeping (Keyed.keys entries)

/-- The path after a move of `source` to `target`: what is at the source
or below it goes along. -/
def moved (source target path : List String) : List String :=
  match source.isPrefixOf? path with
  | some rest => target ++ rest
  | none => path

/-- Whether a tree may take the place of what is at the target. A file
takes the place of a file, a directory that of an empty directory. -/
def mayReplace (source : Tree) : Except Fault Tree → Except Fault Unit
  | .ok (.directory entries) =>
    if !source.isDirectory then .error .isDirectory
    else if !entries.isEmpty then .error .directoryNotEmpty
    else .ok ()
  | .ok (.file _) =>
    if source.isDirectory then .error .notDirectory else .ok ()
  | .error .notFound => .ok ()
  | .error fault => .error fault

/-- Moves a file or a directory, and with it the files that are open at
it or below it. Nothing can be moved to a place below itself. -/
def rename (mounted : Mounted) (source target : List String) :
    Except Fault (Plan Unit) := do
  let tree ← mounted.root.lookup source
  if source = target then
    return mounted.keeping ()
  else if source.isPrefixOf target then
    .error .invalidArgument
  else
    mayReplace tree (mounted.root.lookup target)
    -- A directory above the source would not be empty, so by now the
    -- target is neither below the source nor above it, and taking the
    -- source out leaves the way to the target as it is.
    let without ← mounted.root.remove source
    let root ← without.put target tree
    let handles := mounted.handles.map fun (file, handle) =>
      (file, { handle with path := moved source target handle.path })
    return { mounted with handles }.storing root ()

/-- Removes a file. -/
def unlink (mounted : Mounted) (path : List String) :
    Except Fault (Plan Unit) := do
  match ← mounted.root.lookup path with
  | .directory _ => .error .isDirectory
  | .file _ =>
    let root ← mounted.root.remove path
    return mounted.storing root ()

end Mounted

end MountSpace
