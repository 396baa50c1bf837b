import MountSpace.DescriptorTable
import MountSpace.MountTable
import MountSpace.Registry
import MountSpace.World

/-!
# `MountSpace.NameSpace`: one tree of names over many volumes

A name space makes one tree of mounted volumes. It knows types of file
systems, the mounts, the descriptors of open files and a working
directory, and owns the world of devices and drivers below.

Every path is first resolved against the working directory, and then
handed to the volume that it lies under (`NameSpace.lookup`). This
module holds look-ups and all that has to do with mounting; files and
directories are in `MountSpace.NameSpace.Files`.
-/

set_option autoImplicit false

namespace MountSpace

/-- A tree of names. -/
structure NameSpace (δ σ : Type) where
  /-- The types of file systems that are known. -/
  registry : Registry δ
  /-- What is mounted where. -/
  mounts : MountTable DriverId
  /-- The files that are open. -/
  descriptors : DescriptorTable DriverId
  /-- The working directory. -/
  directory : String
  /-- The devices and drivers below. -/
  world : World δ σ
  deriving DecidableEq

namespace NameSpace

variable {δ σ α : Type}

/-- A name space without volumes, for so many descriptors. -/
def empty (descriptorLimit : Nat) : NameSpace δ σ where
  registry := []
  mounts := []
  descriptors := .empty descriptorLimit
  directory := "/"
  world := .empty

/-- An operation on the world below. -/
def inWorld (action : Action (World δ σ) α) :
    Action (NameSpace δ σ) α :=
  Action.within NameSpace.world
    (fun world space => { space with world }) action

/-- An operation on the descriptors. -/
def inDescriptors (action : Action (DescriptorTable DriverId) α) :
    Action (NameSpace δ σ) α :=
  Action.within NameSpace.descriptors
    (fun descriptors space => { space with descriptors }) action

/-- Notes an event. -/
def note (event : Event) : Action (NameSpace δ σ) Unit :=
  inWorld (World.note event)

@[simp]
theorem run_note (event : Event) (space : NameSpace δ σ) :
    (note event).run space
      = .done () { space with
          world :=
            { space.world with events := event :: space.world.events } } :=
  rfl

/-- A path as seen from the working directory. -/
def resolve (path : String) : Action (NameSpace δ σ) String where
  run space := .done (Path.resolve space.directory path) space

/-- The mount that a path lies under, and the path as its volume sees
it. -/
def lookup (path : String) :
    Action (NameSpace δ σ) (Mount DriverId × String) := do
  let path ← resolve path
  let space ← Action.get
  let (mount, rest) ← Action.ofExcept (space.mounts.find path)
  note (.routed path mount.path rest)
  return (mount, rest)

theorem run_lookup (path : String) (space : NameSpace δ σ) :
    (lookup path).run space =
      match space.mounts.find (Path.resolve space.directory path) with
      | .ok (mount, rest) =>
        (note (.routed (Path.resolve space.directory path) mount.path rest)
          >>= fun _ => pure (mount, rest)).run space
      | .error fault => .refused fault space := by
  show (Action.ofExcept _ >>= _).run space = _
  cases space.mounts.find (Path.resolve space.directory path) <;> rfl

/-! ### Types of file systems -/

/-- Makes a type of file system known. -/
def register (fsType : String) (fresh : δ) :
    Action (NameSpace δ σ) Unit := do
  note (.typeRegistered fsType)
  Action.modify fun space =>
    { space with registry := space.registry.register fsType fresh }

/-- Forgets a type of file system. Its volumes stay mounted. -/
def unregister (fsType : String) : Action (NameSpace δ σ) Unit := do
  let space ← Action.get
  let registry ← Action.ofExcept (space.registry.unregister fsType)
  Action.modify fun space => { space with registry }
  note (.typeUnregistered fsType)

/-- Makes a fresh driver of a type for a device. -/
def build (fsType : String) (device : DeviceId) :
    Action (NameSpace δ σ) DriverId := do
  let space ← Action.get
  let fresh ← Action.ofExcept (space.registry.create fsType)
  inWorld (World.install device fresh)

/-! ### The table of mounts -/

/-- Nothing may be mounted at exactly this path. -/
def requireFree (path : String) : Action (NameSpace δ σ) Unit := do
  let space ← Action.get
  if space.mounts.contains path then Action.refuse .alreadyExists
  else return

/-- Puts a mount into the table. -/
def enter (mount : Mount DriverId) : Action (NameSpace δ σ) Unit := do
  let space ← Action.get
  let mounts ← Action.ofExcept (space.mounts.insert mount)
  Action.modify fun space => { space with mounts }

theorem run_enter (mount : Mount DriverId) (space : NameSpace δ σ) :
    (enter mount).run space =
      match space.mounts.insert mount with
      | .ok mounts => .done () { space with mounts }
      | .error fault => .refused fault space := by
  rw [enter, Action.run_bind, Action.run_get]
  show (Action.ofExcept _ >>= _).run space = _
  cases space.mounts.insert mount <;> rfl

/-- Takes the mount at a path out of the table. From here on no path
leads to its volume. -/
def withdraw (path : String) :
    Action (NameSpace δ σ) (Mount DriverId) := do
  let space ← Action.get
  let (mount, mounts) ← Action.ofExcept (space.mounts.remove path)
  Action.modify fun space => { space with mounts }
  return mount

theorem run_withdraw (path : String) (space : NameSpace δ σ) :
    (withdraw path).run space =
      match space.mounts.remove path with
      | .ok (mount, mounts) => .done mount { space with mounts }
      | .error fault => .refused fault space := by
  rw [withdraw, Action.run_bind, Action.run_get]
  show (Action.ofExcept _ >>= _).run space = _
  cases space.mounts.remove path <;> rfl

variable [Driver δ σ]

/-- Hands a request to a driver. -/
def call (driver : DriverId) (request : Request α) :
    Action (NameSpace δ σ) α :=
  inWorld (World.call driver request)

/-! ### Mounting -/

/-- Makes a device empty, without mounting it. -/
def format (device : DeviceId) (fsType : String) :
    Action (NameSpace δ σ) Unit := do
  let driver ← build fsType device
  call driver .format
  note (.formatted fsType)

/-- What a path names. -/
def stat (path : String) : Action (NameSpace δ σ) Stat := do
  let (mount, rest) ← lookup path
  call mount.driver (.stat rest)

/-- A path has to name a directory. -/
def requireDirectory (path : String) :
    Action (NameSpace δ σ) Unit := do
  match ← (stat path).attempt with
  | .ok found =>
    if found.isDirectory then return else Action.refuse .notFound
  | .error _ => Action.refuse .notFound

/-- Has a driver read its device. If that fails and `autoFormat` is set,
the device is made empty and read once more. -/
def start (path : String) (driver : DriverId) (autoFormat : Bool) :
    Action (NameSpace δ σ) Unit := do
  match ← (call driver .mount).attempt with
  | .ok () => return
  | .error fault =>
    if autoFormat then
      note (.mountRetried path fault)
      call driver .format
      call driver .mount
    else Action.refuse fault

/-- The directory that a path is in has to be there, other than for the
root, which may be mounted before anything else is there. -/
def requireParent (path : String) : Action (NameSpace δ σ) Unit :=
  if path = "/" then pure ()
  else requireDirectory (Path.parent path)

/-- Mounts a device at a path. -/
def mount (path : String) (device : DeviceId) (fsType : String)
    (autoFormat : Bool) : Action (NameSpace δ σ) Unit := do
  let path ← resolve path
  requireParent path
  requireFree path
  let driver ← build fsType device
  start path driver autoFormat
  -- The path was free before, and starting a driver mounts nothing.
  enter ⟨path, fsType, driver⟩
  note (.mounted fsType path)

/-- Unmounts what is at a path. The mount is gone even if its driver
refuses. -/
def unmount (path : String) : Action (NameSpace δ σ) Unit := do
  let path ← resolve path
  let mount ← withdraw path
  note (.unmounted path)
  (call mount.driver .unmount).onRefusal fun fault =>
    note (.unmountFailed path fault)

/-- Goes to another working directory. -/
def changeDirectory (path : String) :
    Action (NameSpace δ σ) Unit := do
  let path ← resolve path
  requireDirectory path
  Action.modify fun space => { space with directory := path }

/-- The tables as text. -/
def text (space : NameSpace δ σ) : String :=
  Text.record "VfsContext"
    [("registry", space.registry.text),
     ("mounts", space.mounts.text),
     ("fd_table", space.descriptors.text),
     ("cwd", Text.quote space.directory)]

end NameSpace

end MountSpace
