import MountSpace.Scratch.Hampered
import MountSpace.Volume

/-!
# `MountSpace.Backend`: the drivers there are

A backend is a volume on a block device or a scratch volume. Both answer
the same requests, so a name space can mix them.
-/

set_option autoImplicit false

namespace MountSpace

/-- A driver of either type. -/
inductive Backend where
  | volume (volume : Volume)
  | scratch (scratch : Hampered)
  deriving DecidableEq

namespace Backend

/-- The name of the type of file system. -/
def typeName : Backend → String
  | volume _ => Volume.typeName
  | scratch _ => Scratch.typeName

/-- A volume that has not been mounted yet. -/
def freshVolume : Backend := .volume .fresh

/-- A scratch volume that has not been mounted yet. -/
def freshScratch (defect : Option Defect) : Backend :=
  .scratch ⟨.fresh, defect⟩

/-- The scratch volume, if it is one. -/
def scratch? : Backend → Option Scratch
  | volume _ => none
  | scratch hampered => some hampered.scratch

/-- Changes a scratch volume, and leaves other drivers alone. -/
def mapScratch (change : Scratch → Scratch) : Backend → Backend
  | volume inner => volume inner
  | scratch hampered =>
    scratch { hampered with scratch := change hampered.scratch }

variable {σ α : Type} [BlockDevice σ]

/-- Answers a request. -/
def serve (request : Request α) : Action (Site Backend σ) α := do
  match ← Site.getDriver with
  | volume inner => Site.hosting inner volume (Volume.serve request)
  | scratch inner => Site.hosting inner scratch (Hampered.serve request)

instance : Driver Backend σ where
  serve := serve

end Backend

end MountSpace
