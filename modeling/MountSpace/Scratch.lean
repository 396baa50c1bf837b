import MountSpace.Device
import MountSpace.Limits
import MountSpace.Scratch.Table

/-!
# `MountSpace.Scratch`: files that are kept for the time being

A scratch volume keeps its files in memory (`MountSpace.Scratch.Table`).
Nothing of it is on the device but a mark in the first byte, which says
that the device has been formatted. It counts some of the requests it
gets, and can be told to refuse some of them, so that its users can be
tried out.

Unlike other drivers it closes files and lets itself be unmounted
whether or not it is mounted.
-/

set_option autoImplicit false

namespace MountSpace

namespace Scratch

/-- The name of this type of file system. -/
def typeName : String := "mockfs"

/-- The first byte of a device that has been formatted. -/
def formatMark : UInt8 := 0xa5

variable {σ : Type} [BlockDevice σ] {α : Type}

/-- The state of the volume, which has to be mounted. -/
def getMounted : Action (Site Scratch σ) Scratch := do
  let scratch ← Site.getDriver
  if scratch.mounted then return scratch
  else Action.refuse .noDevice

/-- Something that is asked of a mounted volume. -/
def asking (answer : Scratch → Except Fault α) :
    Action (Site Scratch σ) α := do
  let scratch ← getMounted
  Action.ofExcept (answer scratch)

/-- A change to a mounted volume. -/
def changing (change : Scratch → Except Fault Scratch) :
    Action (Site Scratch σ) Unit := do
  let scratch ← getMounted
  let scratch ← Action.ofExcept (change scratch)
  Site.setDriver scratch

/-- Looks for the mark on the device. -/
def mount : Action (Site Scratch σ) Unit := do
  Site.modifyDriver fun scratch =>
    { scratch with mountRequests := scratch.mountRequests + 1 }
  match ← Site.onMedium (Medium.ask (BlockDevice.read 0 0 1)) with
  | none => Action.refuse .ioError
  | some start =>
    if start.toList = [formatMark] then
      Site.modifyDriver fun scratch =>
        { scratch with
          mounted := true
          entries :=
            if scratch.entries.isEmpty then rootOnly else scratch.entries }
    else Action.refuse .corrupted

/-- Gives up all open files. -/
def unmount : Action (Site Scratch σ) Unit := do
  Site.modifyDriver fun scratch =>
    { scratch with
      unmountRequests := scratch.unmountRequests + 1
      mounted := false
      handles := [] }
  if (← Site.getDriver).refusesUnmount then Action.refuse .ioError

/-- Writes the mark and empties the table. -/
def format : Action (Site Scratch σ) Unit := do
  Site.modifyDriver fun scratch =>
    { scratch with formatRequests := scratch.formatRequests + 1 }
  if ← Site.onMedium (Medium.ask (BlockDevice.write 0 0 [formatMark])) then
    Site.modifyDriver fun scratch => { scratch with entries := rootOnly }
  else Action.refuse .ioError

/-- Opens a file. -/
def openFile (path : String) (flags : OpenFlags) :
    Action (Site Scratch σ) FileId := do
  let scratch ← getMounted
  let scratch ← Action.ofExcept (scratch.prepare path flags)
  let file := scratch.nextId
  if file.toNat + 1 < fieldLimit then
    Site.setDriver { scratch.setHandle file ⟨path, flags, 0⟩ with
      nextId := file + 1 }
    return file
  else Action.stop .fileIdOverflow

/-- The number of bytes of the device, at most the greatest word; none
if the device does not tell. -/
def capacity : Action (Site Scratch σ) Nat := do
  let blockSize ← Site.onMedium (Medium.ask BlockDevice.blockSize)
  let blockCount ← Site.onMedium (Medium.ask BlockDevice.blockCount)
  match blockSize, blockCount with
  | some blockSize, some blockCount =>
    return min (blockSize * blockCount) (wordLimit - 1)
  | _, _ => return 0

/-- Writes to an open file. The place of the next transfer moves to
where the bytes should go even if they do not fit there. -/
def write (file : FileId) (data : Bytes) (position : Option Nat) :
    Action (Site Scratch σ) Nat := do
  let scratch ← getMounted
  let handle ← Action.ofExcept (scratch.handle file)
  if !handle.flags.writable then Action.refuse .badDescriptor
  let old ← Action.ofExcept (scratch.contents handle)
  let start :=
    if handle.flags.appends then old.size
    else position.getD handle.cursor
  -- The place is kept even if the bytes are refused below.
  let scratch := scratch.setHandle file { handle with cursor := start }
  Site.setDriver scratch
  let cursor := start + data.length
  -- A place that is no word is refused without asking the device.
  if wordLimit ≤ cursor then Action.refuse .noSpace
  let room ← capacity
  if room < cursor then Action.refuse .noSpace
  Action.reserve cursor
  let scratch :=
    scratch.putEntry handle.path (.file (old.splice start data))
  Site.setDriver (scratch.setHandle file { handle with cursor })
  return data.length

/-- Closes an open file. -/
def close (file : FileId) : Action (Site Scratch σ) Unit := do
  let scratch ← Site.getDriver
  let _ ← Action.ofExcept (scratch.handle file)
  Site.setDriver
    { scratch with handles := Keyed.erase scratch.handles file }
  if scratch.refusesClose then Action.refuse .ioError

/-- Answers a request. -/
def serve {α : Type} : Request α → Action (Site Scratch σ) α
  | .mount => mount
  | .unmount => unmount
  | .format => format
  | .openFile path flags _ => openFile path flags
  | .read file length position => do
    let scratch ← getMounted
    let (found, scratch) ←
      Action.ofExcept (scratch.read file length position)
    Site.setDriver scratch
    return found
  | .write file data position => write file data position
  | .close file => close file
  | .stat path => asking fun scratch => scratch.stat path
  | .makeDirectory path => changing fun scratch => scratch.makeDirectory path
  | .removeDirectory path =>
    changing fun scratch => scratch.removeDirectory path
  | .list path => asking fun scratch => scratch.list path
  | .rename source target =>
    changing fun scratch => scratch.rename source target
  | .unlink path => changing fun scratch => scratch.unlink path

instance : Driver Scratch σ where
  serve := serve

end Scratch

end MountSpace
