import MountSpace.Volume.Mounted

/-!
# `MountSpace.Volume`: files kept on a block device

A volume keeps a whole tree of directories and files in memory while it
is mounted. Each operation that changes the tree writes all of it to the
device, and the new tree takes the place of the old one only when that
has succeeded (`Volume.perform`). Without being mounted a volume knows
no files.

Names are checked before anything else, so a name that is too long is
refused even when the volume is not mounted; so is an attempt to move or
remove the root, and to open a file for nothing.
-/

set_option autoImplicit false

namespace MountSpace

/-- A volume, with its tree while it is mounted. -/
structure Volume where
  mounted : Option Mounted
  deriving DecidableEq

namespace Volume

/-- The name of this type of file system. -/
def typeName : String := "blockfs"

/-- A volume that has not been mounted yet. -/
def fresh : Volume := ⟨none⟩

/-- Whether the volume is mounted. -/
def isMounted (volume : Volume) : Bool := volume.mounted.isSome

/-- The names on a path, seen from the root. -/
def names (path : String) : Except Fault (List String) :=
  let found := (Path.normalForm
    (if Path.isAbsolute path then path else "/" ++ path)).names
  if found.any fun name => maxNameLength < name.utf8ByteSize then
    .error .nameTooLong
  else
    .ok found

variable {σ : Type} [BlockDevice σ] {α : Type}

/-- What is mounted. -/
def getMounted : Action (Site Volume σ) Mounted := do
  match (← Site.getDriver).mounted with
  | some mounted => return mounted
  | none => Action.refuse .noDevice

/-- Carries a plan out: the tree is written first, if it has to be, and
what is mounted changes when that has succeeded. -/
def perform (plan : Plan α) : Action (Site Volume σ) α := do
  if plan.stores then
    Site.onMedium (plan.next.root.store plan.next.geometry)
  Site.setDriver ⟨some plan.next⟩
  return plan.value

/-- Plans an operation on what is mounted, and carries it out. -/
def onMounted (plan : Mounted → Except Fault (Plan α)) :
    Action (Site Volume σ) α := do
  let mounted ← getMounted
  let plan ← Action.ofExcept (plan mounted)
  perform plan

/-- Reads the tree from the device. -/
def mount : Action (Site Volume σ) Unit := do
  let (root, geometry) ← Site.onMedium do
    Medium.control .start
    let geometry ← Medium.geometry
    let root ← (Tree.load geometry).onRefusal fun fault =>
      Medium.note (.volumeMountFailed fault)
    return (root, geometry)
  Site.setDriver ⟨some ⟨root, [], 0, geometry⟩⟩
  Site.onMedium
    (Medium.note (.volumeMounted geometry.blockCount geometry.blockSize))

/-- Forgets the tree, and lets the device write what it holds. -/
def unmount : Action (Site Volume σ) Unit := do
  let _ ← getMounted
  -- The tree is gone even if the device then fails.
  Site.setDriver ⟨none⟩
  Site.onMedium do
    Medium.control .sync
    Medium.control .shutdown

/-- Writes an empty tree to the device. What is mounted becomes empty
too, and has no open files. -/
def format : Action (Site Volume σ) Unit := do
  let geometry ← Site.onMedium do
    Medium.control .start
    let geometry ← Medium.geometry
    -- One block for the superblock, and one for the image.
    if geometry.blockCount < 2 ∨ geometry.blockSize < Superblock.length then
      Action.refuse .noSpace
    Tree.empty.store geometry
    return geometry
  Site.modifyDriver fun volume =>
    ⟨volume.mounted.map fun mounted =>
      { mounted with root := Tree.empty, handles := [], geometry }⟩
  Site.onMedium (Medium.note (.volumeFormatted geometry.blockCount))

/-- Opens a file. -/
def openFile (path : String) (flags : OpenFlags) :
    Action (Site Volume σ) FileId := do
  if flags.isEmpty then Action.refuse .invalidArgument
  let path ← Action.ofExcept (names path)
  onMounted fun mounted => mounted.openFile path flags

/-- Writes to an open file. Writing nothing moves the place of the next
transfer and asks for no file. -/
def write (file : FileId) (data : Bytes) (position : Option Nat) :
    Action (Site Volume σ) Nat := do
  let mounted ← getMounted
  let handle ← Action.ofExcept (mounted.writableHandle file)
  if data.isEmpty then
    perform (mounted.seek file handle position)
  else
    -- What the device can hold bounds every file, whatever else is there.
    let capacity ← mounted.geometry.room
    let (old, start) ← Action.ofExcept
      (mounted.target handle data.length position capacity)
    Action.reserve (start + data.length)
    let plan ← Action.ofExcept
      (mounted.write file handle old start data)
    perform plan

/-- Removes an empty directory, which cannot be the root. -/
def removeDirectory (path : String) : Action (Site Volume σ) Unit := do
  let path ← Action.ofExcept (names path)
  if path.isEmpty then Action.refuse .invalidArgument
  onMounted fun mounted => mounted.removeDirectory path

/-- Moves a file or a directory, neither of them the root. -/
def rename (source target : String) : Action (Site Volume σ) Unit := do
  let source ← Action.ofExcept (names source)
  let target ← Action.ofExcept (names target)
  if source.isEmpty ∨ target.isEmpty then Action.refuse .invalidArgument
  onMounted fun mounted => mounted.rename source target

/-- An operation on the path that a text names. -/
def atPath (path : String)
    (plan : Mounted → List String → Except Fault (Plan α)) :
    Action (Site Volume σ) α := do
  let path ← Action.ofExcept (names path)
  onMounted fun mounted => plan mounted path

/-- Answers a request. -/
def serve {α : Type} : Request α → Action (Site Volume σ) α
  | .mount => mount
  | .unmount => unmount
  | .format => format
  | .openFile path flags _ => openFile path flags
  | .read file length position =>
    onMounted fun mounted => mounted.read file length position
  | .write file data position => write file data position
  | .close file => onMounted fun mounted => mounted.close file
  | .stat path => atPath path Mounted.stat
  | .makeDirectory path => atPath path Mounted.makeDirectory
  | .removeDirectory path => removeDirectory path
  | .list path => atPath path Mounted.list
  | .rename source target => rename source target
  | .unlink path => atPath path Mounted.unlink

instance : Driver Volume σ where
  serve := serve

end Volume

end MountSpace
