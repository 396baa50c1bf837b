import MountSpace.Bytes
import MountSpace.Medium
import MountSpace.OpenFlags
import MountSpace.Stat

/-!
# `MountSpace.Driver`: what serves the files of a mounted device

A driver answers requests for the files of one device. The paths it gets
are seen from the place where the device is mounted, so they start with
a slash.

* `Request α`: the thirteen requests, each with the type of its answer.
* `Driver δ σ`: a driver whose state is a `δ`, on devices whose state is
  a `σ`.
-/

set_option autoImplicit false

namespace MountSpace

/-- The number a driver gives to an open file. -/
abbrev FileId : Type := UInt32

/-- A request to a driver, with the type of its answer. -/
inductive Request : Type → Type where
  /-- Reads the medium and checks it. -/
  | mount : Request Unit
  /-- Gives up all open files and lets the device write what it holds. -/
  | unmount : Request Unit
  /-- Makes the medium empty. -/
  | format : Request Unit
  /-- Opens a file and answers its number. -/
  | openFile (path : String) (flags : OpenFlags) (permissions : UInt32) :
    Request FileId
  /-- Reads at most `length` bytes, from `position` or from where the
  last transfer ended. -/
  | read (file : FileId) (length : Nat) (position : Option Nat) :
    Request Bytes
  /-- Writes bytes and answers how many, from `position` or from where
  the last transfer ended. -/
  | write (file : FileId) (data : Bytes) (position : Option Nat) :
    Request Nat
  /-- Closes an open file. -/
  | close (file : FileId) : Request Unit
  /-- What a path names. -/
  | stat (path : String) : Request Stat
  /-- Makes a directory. -/
  | makeDirectory (path : String) : Request Unit
  /-- Removes an empty directory. -/
  | removeDirectory (path : String) : Request Unit
  /-- The names in a directory, without `.` and `..`. -/
  | list (path : String) : Request (List String)
  /-- Moves a file or a directory. -/
  | rename (source target : String) : Request Unit
  /-- Removes a file. -/
  | unlink (path : String) : Request Unit

/-- Something with a state `δ` that answers requests for the files of a
device with a state `σ`. -/
class Driver (δ σ : Type) where
  /-- Answers a request. -/
  serve : {α : Type} → Request α → Action (Site δ σ) α

end MountSpace
