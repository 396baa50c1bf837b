import MountSpace.NameSpace.Files

/-!
# `MountSpace.NameSpace.Command`: all that can be asked of a name space

`Command δ α` lists the operations of a name space whose drivers have
states of type `δ`, each with the type of its answer, and
`NameSpace.run` carries one out. What holds of every operation, or of
every sequence of them, is said about commands.
-/

set_option autoImplicit false

namespace MountSpace

/-- An operation of a name space, with the type of its answer. -/
inductive Command (δ : Type) : Type → Type where
  | register (fsType : String) (fresh : δ) : Command δ Unit
  | unregister (fsType : String) : Command δ Unit
  | format (device : DeviceId) (fsType : String) : Command δ Unit
  | mount (path : String) (device : DeviceId) (fsType : String)
    (autoFormat : Bool) : Command δ Unit
  | unmount (path : String) : Command δ Unit
  | lookup (path : String) : Command δ (Mount DriverId × String)
  | changeDirectory (path : String) : Command δ Unit
  | openFile (path mode : String) (permissions : UInt32) : Command δ Nat
  | openDefault (path : String) : Command δ Nat
  | read (descriptor : Nat) (buffer : Bytes) : Command δ Filled
  | write (descriptor : Nat) (buffer : Bytes) : Command δ Nat
  | readWith (descriptor : Nat) (buffer : Bytes) (offset length : Nat)
    (position : Option Nat) : Command δ Filled
  | writeWith (descriptor : Nat) (buffer : Bytes) (offset length : Nat)
    (position : Option Nat) : Command δ Nat
  | close (descriptor : Nat) : Command δ Unit
  | stat (path : String) : Command δ Stat
  | unlink (path : String) : Command δ Unit
  | makeDirectory (path : String) : Command δ Unit
  | removeDirectory (path : String) : Command δ Unit
  | remove (path : String) : Command δ Unit
  | rename (source target : String) : Command δ Unit
  | list (path : String) : Command δ (List String)
  | pathExists (path : String) : Command δ Bool
  | readWhole (path : String) : Command δ Bytes
  | writeWhole (path : String) (data : Bytes) : Command δ Unit

namespace NameSpace

variable {δ σ : Type} [Driver δ σ]

/-- Carries out a command. -/
def run {α : Type} : Command δ α → Action (NameSpace δ σ) α
  | .register fsType fresh => register fsType fresh
  | .unregister fsType => unregister fsType
  | .format device fsType => format device fsType
  | .mount path device fsType autoFormat =>
    mount path device fsType autoFormat
  | .unmount path => unmount path
  | .lookup path => lookup path
  | .changeDirectory path => changeDirectory path
  | .openFile path mode permissions => openFile path mode permissions
  | .openDefault path => openDefault path
  | .read descriptor buffer => read descriptor buffer
  | .write descriptor buffer => write descriptor buffer
  | .readWith descriptor buffer offset length position =>
    readWith descriptor buffer offset length position
  | .writeWith descriptor buffer offset length position =>
    writeWith descriptor buffer offset length position
  | .close descriptor => close descriptor
  | .stat path => stat path
  | .unlink path => unlink path
  | .makeDirectory path => makeDirectory path
  | .removeDirectory path => removeDirectory path
  | .remove path => remove path
  | .rename source target => rename source target
  | .list path => list path
  | .pathExists path => pathExists path
  | .readWhole path => readWhole path
  | .writeWhole path data => writeWhole path data

end NameSpace

end MountSpace
