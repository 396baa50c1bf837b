import MountSpace.Text

/-!
# `MountSpace.Lock`: a lock around a value, seen from one thread

A lock is held or free. Taking a lock that is held means to wait until
another thread frees it; with one thread only that never happens, so
such an attempt has no outcome.
-/

set_option autoImplicit false

namespace MountSpace

/-- A value behind a lock. -/
structure Lock (α : Type) where
  held : Bool
  value : α
  deriving DecidableEq, Repr

namespace Lock

variable {α : Type}

/-- A free lock around a value. -/
def new (value : α) : Lock α := ⟨false, value⟩

/-- Takes a lock that is free. -/
def acquire? (lock : Lock α) : Option (Lock α) :=
  if lock.held then none else some { lock with held := true }

/-- Takes the lock if it is free, and says whether it was. -/
def tryAcquire (lock : Lock α) : Bool × Lock α :=
  (!lock.held, { lock with held := true })

/-- Frees the lock. -/
def release (lock : Lock α) : Lock α :=
  { lock with held := false }

/-- Replaces the value, by whoever holds the lock or holds it for that
moment. -/
def set (lock : Lock α) (value : α) : Lock α :=
  { lock with value }

/-- Whether the lock is held, as text. -/
def text (lock : Lock α) : String :=
  Text.record "RawSpinLock" [("lock", toString lock.held)]

end Lock

end MountSpace
