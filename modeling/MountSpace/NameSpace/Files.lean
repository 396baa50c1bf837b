import MountSpace.NameSpace

/-!
# `MountSpace.NameSpace.Files`: files and directories in a name space

What callers do with paths and descriptors. A path is handed to the
volume that it lies under, a descriptor to the driver that opened its
file. Reading fills a buffer from its start, or a part of it
(`readWith`); the answer is the buffer, and how many bytes of it are new
(`Filled`).

`readWhole` and `writeWhole` open, move all bytes and close. They close
the file however the transfer ends, and a failed transfer is told before
a failed close.
-/

set_option autoImplicit false

namespace MountSpace

/-- A buffer after a read. -/
structure Filled where
  count : Nat
  buffer : Bytes
  deriving DecidableEq, Repr

namespace NameSpace

variable {δ σ α : Type} [Driver δ σ]

/-! ### Descriptors -/

/-- The open file of a descriptor. -/
def fileOf (descriptor : Nat) :
    Action (NameSpace δ σ) (OpenFile DriverId) := do
  Action.ofExcept ((← Action.get).descriptors.get descriptor)

/-- Opens a file in the given mode, and answers its descriptor. If there
is none left the file is closed again. -/
def openFile (path mode : String) (permissions : UInt32) :
    Action (NameSpace δ σ) Nat := do
  let flags ← Action.ofExcept (OpenFlags.ofMode mode)
  let (mount, rest) ← lookup path
  let file ← call mount.driver (.openFile rest flags permissions)
  let opened := ⟨file, mount.driver, mount.path⟩
  -- Whether the driver can close the file or not, what the caller is told
  -- is that there was no descriptor left.
  (inDescriptors (DescriptorTable.alloc opened)).onRefusal fun _ => do
    match ← (call mount.driver (.close file)).attempt with
    | .ok () => return
    | .error fault => note (.withdrawFailed fault)

/-- Opens a file for reading. -/
def openDefault (path : String) : Action (NameSpace δ σ) Nat :=
  openFile path "r" defaultPermissions

/-- At most `length` bytes from where the last transfer ended. -/
def receive (descriptor length : Nat) : Action (NameSpace δ σ) Bytes := do
  let file ← fileOf descriptor
  call file.driver (.read file.file length none)

/-- Fills a buffer from its start. -/
def read (descriptor : Nat) (buffer : Bytes) :
    Action (NameSpace δ σ) Filled := do
  let found ← receive descriptor buffer.length
  return ⟨found.length, buffer.splice 0 found⟩

/-- Writes a buffer. -/
def write (descriptor : Nat) (buffer : Bytes) :
    Action (NameSpace δ σ) Nat := do
  let file ← fileOf descriptor
  call file.driver (.write file.file buffer none)

/-- A part of a buffer has to lie within it. -/
def requireWindow (buffer : Bytes) (offset length : Nat) :
    Action (NameSpace δ σ) Unit :=
  if offset + length ≤ buffer.length then pure ()
  else Action.refuse .invalidArgument

/-- Fills the part of a buffer that starts at `offset`. -/
def readWith (descriptor : Nat) (buffer : Bytes) (offset length : Nat)
    (position : Option Nat) : Action (NameSpace δ σ) Filled := do
  let file ← fileOf descriptor
  requireWindow buffer offset length
  let found ← call file.driver (.read file.file length position)
  return ⟨found.length, buffer.splice offset found⟩

/-- Writes the part of a buffer that starts at `offset`. -/
def writeWith (descriptor : Nat) (buffer : Bytes) (offset length : Nat)
    (position : Option Nat) : Action (NameSpace δ σ) Nat := do
  let file ← fileOf descriptor
  requireWindow buffer offset length
  call file.driver (.write file.file (buffer.window offset length) position)

/-- Frees a descriptor and closes its file. -/
def close (descriptor : Nat) : Action (NameSpace δ σ) Unit := do
  let file ← inDescriptors (DescriptorTable.close descriptor)
  (call file.driver (.close file.file)).onRefusal fun fault =>
    note (.closeFailed descriptor fault)

/-! ### Paths -/

/-- Removes a file. -/
def unlink (path : String) : Action (NameSpace δ σ) Unit := do
  let (mount, rest) ← lookup path
  call mount.driver (.unlink rest)

/-- Makes a directory. -/
def makeDirectory (path : String) : Action (NameSpace δ σ) Unit := do
  let (mount, rest) ← lookup path
  call mount.driver (.makeDirectory rest)

/-- Removes an empty directory. -/
def removeDirectory (path : String) : Action (NameSpace δ σ) Unit := do
  let (mount, rest) ← lookup path
  call mount.driver (.removeDirectory rest)

/-- Moves a file or a directory within a volume. -/
def rename (source target : String) : Action (NameSpace δ σ) Unit := do
  let (sourceMount, sourceRest) ← lookup source
  let (targetMount, targetRest) ← lookup target
  if sourceMount.path ≠ targetMount.path then Action.refuse .crossDevice
  call sourceMount.driver (.rename sourceRest targetRest)

/-- The names of a directory together with those of further entries, each
once. -/
def merge (names more : List String) : List String :=
  more.foldl
    (fun names name => if name ∈ names then names else names ++ [name])
    names

/-- The names in a directory, and those of the volumes mounted in it. -/
def list (path : String) : Action (NameSpace δ σ) (List String) := do
  let (mount, rest) ← lookup path
  let names ← call mount.driver (.list rest)
  -- A volume is listed where it is mounted, even over an entry.
  let directory ← resolve path
  return merge names ((← Action.get).mounts.children directory)

/-- Whether a path names anything. -/
def pathExists (path : String) : Action (NameSpace δ σ) Bool := do
  match ← (stat path).attempt with
  | .ok _ => return true
  | .error _ => return false

/-- Removes a file or an empty directory. -/
def remove (path : String) : Action (NameSpace δ σ) Unit := do
  if (← stat path).isFile then unlink path else removeDirectory path

/-! ### Whole files -/

/-- Reads until `length` bytes have come, or none come any more. What
was read before, last byte first, is put in front of them. -/
def receiveAll (descriptor length : Nat) (before : Bytes) :
    Action (NameSpace δ σ) Bytes :=
  if _more : length ≠ 0 then do
    let found ← receive descriptor length
    if _some : found.length ≠ 0 then
      receiveAll descriptor (length - found.length)
        (found.reverse ++ before)
    else return before.reverse
  else pure before.reverse
termination_by length

/-- Reads as many bytes as a path is said to have. There is room for all of
them before the first one is read. -/
def receiveFile (descriptor : Nat) (path : String) :
    Action (NameSpace δ σ) Bytes := do
  let found ← stat path
  Action.reserve found.size
  receiveAll descriptor found.size []

/-- Writes until all bytes are written. A driver that writes none of them
has failed. -/
def sendAll (descriptor : Nat) (data : Bytes) :
    Action (NameSpace δ σ) Unit :=
  if more : data ≠ [] then do
    have := List.length_pos_iff.mpr more
    let count ← write descriptor data
    if _some : count ≠ 0 then sendAll descriptor (data.drop count)
    else Action.refuse .ioError
  else pure ()
termination_by data.length
decreasing_by rw [List.length_drop]; omega

/-- Does something with an open file, and closes it however that
ends. -/
def closing (descriptor : Nat) (transfer : Action (NameSpace δ σ) α) :
    Action (NameSpace δ σ) α := do
  let moved ← transfer.attempt
  let closed ← (close descriptor).attempt
  -- What went wrong first is told first.
  let value ← Action.ofExcept moved
  Action.ofExcept closed
  return value

/-- The contents of a file. -/
def readWhole (path : String) : Action (NameSpace δ σ) Bytes := do
  let descriptor ← openFile path "r" defaultPermissions
  closing descriptor (receiveFile descriptor path)

/-- Makes bytes the contents of a file. -/
def writeWhole (path : String) (data : Bytes) :
    Action (NameSpace δ σ) Unit := do
  let descriptor ← openFile path "w" defaultPermissions
  closing descriptor (sendAll descriptor data)

end NameSpace

end MountSpace
