import MountSpace.Driver
import MountSpace.Limits
import MountSpace.Text

/-!
# `MountSpace.DescriptorTable`: numbers for open files

A descriptor is a small number that stands for an open file. The table
has a slot for each descriptor given out so far; the first three belong
to the standard streams and stay empty. A new file gets the least
descriptor that is free, as long as it is below the limit of the table.

* `alloc`: gives a file a descriptor.
* `get`, `close`: the file of a descriptor, which stays or goes.
-/

set_option autoImplicit false

namespace MountSpace

/-- A file that is open at a driver; `ρ` refers to the driver. -/
structure OpenFile (ρ : Type) where
  file : FileId
  driver : ρ
  mountPath : String
  deriving DecidableEq, Repr

/-- An open file as text, where the type of its driver is known. -/
def OpenFile.text {ρ : Type} (typeName : ρ → String) (file : OpenFile ρ) :
    String :=
  Text.record "OpenFile"
    [("file_id", toString file.file.toNat),
     ("fs_type", Text.quote (typeName file.driver)),
     ("mount_path", Text.quote file.mountPath)]

/-- The files of the descriptors, and the first descriptor that is not
given out. -/
structure DescriptorTable (ρ : Type) where
  slots : List (Option (OpenFile ρ))
  limit : Nat
  deriving DecidableEq, Repr

namespace DescriptorTable

variable {ρ : Type}

/-- A table without open files. -/
def empty (limit : Nat) : DescriptorTable ρ := ⟨[], limit⟩

/-- The slots, those of the standard streams included. -/
def padded (table : DescriptorTable ρ) : List (Option (OpenFile ρ)) :=
  table.slots
    ++ List.replicate (reservedDescriptors - table.slots.length) none

/-- The least descriptor that is free. -/
def firstFree (table : DescriptorTable ρ) : Nat :=
  reservedDescriptors
    + (table.padded.drop reservedDescriptors).findIdx Option.isNone

/-- Gives a file the least descriptor that is free. A table that is full
makes room for the standard streams nevertheless. -/
def alloc (file : OpenFile ρ) : Action (DescriptorTable ρ) Nat where
  run table :=
    let slots := table.padded
    let descriptor := table.firstFree
    -- A slot past the standard streams was made below the limit.
    if descriptor < slots.length then
      .done descriptor { table with slots := slots.set descriptor (some file) }
    else if descriptor < table.limit then
      .done descriptor { table with slots := slots ++ [some file] }
    else
      .refused .tooManyOpenFiles { table with slots }

/-- The file of a descriptor. -/
def get (table : DescriptorTable ρ) (descriptor : Nat) :
    Except Fault (OpenFile ρ) :=
  if descriptor < reservedDescriptors then .error .badDescriptor
  else
    match table.slots[descriptor]? with
    | some (some file) => .ok file
    | _ => .error .badDescriptor

/-- Frees a descriptor, and answers its file. -/
def close (descriptor : Nat) :
    Action (DescriptorTable ρ) (OpenFile ρ) where
  run table :=
    match table.get descriptor with
    | .ok file =>
      .done file { table with slots := table.slots.set descriptor none }
    | .error fault => .refused fault table

/-- The number of descriptors in use. -/
def openCount (table : DescriptorTable ρ) : Nat :=
  table.slots.countP Option.isSome

/-- The table as text. -/
def text (table : DescriptorTable ρ) : String :=
  Text.record "FDTable"
    [("max_fds", toString table.limit),
     ("slots", toString table.slots.length),
     ("used", toString table.openCount)]

end DescriptorTable

end MountSpace
