import MountSpace.NameSpace.Files

/-!
# `MountSpace.Walk`: all that lies below a path

A walk visits a path and, if that is a directory, all paths below it,
each directory before its entries. What cannot be looked at is noted
with the reason, and the walk goes on elsewhere.
-/

set_option autoImplicit false

namespace MountSpace

/-- What a walk has seen. -/
inductive Sight where
  | found (path : String) (stat : Stat)
  | failed (path : String) (fault : Fault)
  deriving DecidableEq, Repr

namespace Walk

variable {τ : Type}

/-- Visits the paths that are still to be visited, in order, and those
below each of them before the next one. `seen` is what has been seen,
the last first, and `steps` bounds the number of visits. -/
def visitAll (stat : String → Action τ Stat)
    (list : String → Action τ (List String)) :
    (steps : Nat) → (paths : List String) → (seen : List Sight) →
    Action τ (List Sight)
  | 0, _, seen => pure seen.reverse
  | _ + 1, [], seen => pure seen.reverse
  | steps + 1, path :: rest, seen => do
    match ← (stat path).attempt with
    | .error fault =>
      visitAll stat list steps rest (.failed path fault :: seen)
    | .ok found =>
      let seen := .found path found :: seen
      if found.isDirectory then
        match ← (list path).attempt with
        | .error fault =>
          visitAll stat list steps rest (.failed path fault :: seen)
        | .ok names =>
          visitAll stat list steps
            (names.map (Path.child path) ++ rest) seen
      else visitAll stat list steps rest seen

/-- The greatest number of visits of a walk. -/
def visitLimit : Nat := 0x1_0000_0000

end Walk

variable {δ σ : Type} [Driver δ σ]

/-- A walk over the files of a driver. -/
def World.walk (driver : DriverId) (path : String) :
    Action (World δ σ) (List Sight) :=
  Walk.visitAll (fun path => World.call driver (.stat path))
    (fun path => World.call driver (.list path)) Walk.visitLimit [path] []

/-- A walk over the files of a name space. -/
def NameSpace.walk (path : String) :
    Action (NameSpace δ σ) (List Sight) :=
  Walk.visitAll NameSpace.stat NameSpace.list Walk.visitLimit [path] []

end MountSpace
