import MountSpace.Fault
import MountSpace.Keyed
import MountSpace.Text

/-!
# `MountSpace.Registry`: types of file systems by name

A type of file system is known by a name, and is given by the state of a
driver of that type before its first request. Names are listed in order.
-/

set_option autoImplicit false

namespace MountSpace

/-- Fresh drivers under the names of their types. -/
abbrev Registry (δ : Type) : Type := Keyed String δ

namespace Registry

variable {δ : Type}

/-- Makes a type known; one of the same name is forgotten. -/
def register (registry : Registry δ) (fsType : String) (fresh : δ) :
    Registry δ :=
  Keyed.insert registry fsType fresh

/-- Forgets a type. -/
def unregister (registry : Registry δ) (fsType : String) :
    Except Fault (Registry δ) :=
  if Keyed.contains registry fsType then
    .ok (Keyed.erase registry fsType)
  else .error .invalidArgument

/-- A fresh driver of a type. -/
def create (registry : Registry δ) (fsType : String) : Except Fault δ :=
  match Keyed.get? registry fsType with
  | some fresh => .ok fresh
  | none => .error .invalidArgument

/-- The names as text. -/
def text (registry : Registry δ) : String :=
  Text.list ((Keyed.keys registry).map Text.quote)

end Registry

end MountSpace
