import MountSpace.Scratch

/-!
# `MountSpace.Scratch.Hampered`: scratch volumes with a defect

A hampered volume is a scratch volume that does not do all that its
users could wish for, though nothing that a driver must not do. It moves
fewer bytes than it is asked to, refuses to read or to tell about files,
or tells too large a size. Everything else is as without the defect.
-/

set_option autoImplicit false

namespace MountSpace

/-- What is wrong with a driver. -/
inductive Defect where
  /-- A transfer moves at most so many bytes. -/
  | shortTransfers (most : Nat)
  /-- Files cannot be read. -/
  | unreadable
  /-- Nothing is told about files. -/
  | untold
  /-- Files are said to be larger than they are. -/
  | overstated (excess : Nat)
  deriving DecidableEq, Repr

/-- A scratch volume with a defect, or without one. -/
structure Hampered where
  scratch : Scratch
  defect : Option Defect
  deriving DecidableEq, Repr

namespace Hampered

variable {σ α : Type} [BlockDevice σ]

/-- Answers a request as the defect has it. -/
def answer : Option Defect → Request α → Action (Site Scratch σ) α
  | some (.shortTransfers most), .read file length position =>
    Scratch.serve (.read file (min length most) position)
  | some (.shortTransfers most), .write file data position =>
    Scratch.serve (.write file (data.take most) position)
  | some .unreadable, .read .. => Action.refuse .ioError
  | some .untold, .stat path => do
    let stat ← Scratch.serve (.stat path)
    if stat.isFile then Action.refuse .notSupported else return stat
  | some (.overstated excess), .stat path => do
    let stat ← Scratch.serve (.stat path)
    if stat.isFile then return Stat.file (stat.size + excess)
    else return stat
  | _, request => Scratch.serve request

/-- Answers a request. -/
def serve (request : Request α) : Action (Site Hampered σ) α := do
  let hampered ← Site.getDriver
  Site.hosting hampered.scratch (fun scratch => { hampered with scratch })
    (answer hampered.defect request)

instance : Driver Hampered σ where
  serve := serve

end Hampered

end MountSpace
