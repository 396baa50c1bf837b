import MountSpace.Fault
import MountSpace.Limits

/-!
# `MountSpace.Effect`: operations that change state, refuse or stop

An operation on a state ends in one of three ways. It is done, with a
value and the state it leaves; it is refused, with a cause and the
state it leaves, for a refused operation may have had effects before it
gave up; or it stops for good at an arithmetic limit (`Trap`), after
which nothing more is asked of the state.

* `Ending σ α`: the three ways to end.
* `Action σ α`: an operation on a state of type `σ`, a monad
  (`LawfulMonad (Action σ)`).
* `Call σ α`: an operation that cannot be refused.
* `Action.attempt`: the answer of an operation as a value, so that the
  caller can go on after a refusal. A stop is never caught.
* `Action.reserve`: asks for room for a byte string.
* `Action.within`: an operation on a part of the state.

The lemmas `run_…` say what each of them does to a state.
-/

set_option autoImplicit false

namespace MountSpace

/-- An arithmetic limit at which an operation stops for good. -/
inductive Trap where
  /-- A number of blocks was asked of a device whose blocks are empty. -/
  | zeroBlockSize
  /-- The end of a transfer passes the last address of a device. -/
  | addressOverflow
  /-- The number of bytes that a device can hold does not fit a machine
  word. -/
  | capacityOverflow
  /-- A byte string would be longer than any can be. -/
  | sizeOverflow
  /-- The numbers for open files are used up. -/
  | fileIdOverflow
  deriving DecidableEq, Repr

/-- How an operation ends. -/
inductive Ending (σ α : Type) where
  | done (value : α) (state : σ)
  | refused (fault : Fault) (state : σ)
  | stopped (trap : Trap)
  deriving DecidableEq, Repr

/-- An operation on a state of type `σ` that answers an `α`. -/
@[ext]
structure Action (σ α : Type) where
  /-- How the operation ends when it starts in the given state. -/
  run : σ → Ending σ α

/-- An operation that changes the state or stops, but is not refused. -/
abbrev Call (σ α : Type) : Type := StateT σ (Except Trap) α

namespace Action

variable {σ τ α β : Type}

/-- Answers a value and leaves the state alone. -/
protected def pure (value : α) : Action σ α where
  run state := .done value state

/-- Goes on with the answer of an operation that is done. -/
protected def bind (action : Action σ α) (next : α → Action σ β) :
    Action σ β where
  run state :=
    match action.run state with
    | .done value state => (next value).run state
    | .refused fault state => .refused fault state
    | .stopped trap => .stopped trap

instance : Monad (Action σ) where
  pure := Action.pure
  bind := Action.bind

/-- Refuses, and leaves the state as it is. -/
def refuse (fault : Fault) : Action σ α where
  run state := .refused fault state

/-- Stops for good. -/
def stop (trap : Trap) : Action σ α where
  run _ := .stopped trap

/-- Asks for room for `size` bytes, which stops where no byte string can
be that long. -/
def reserve (size : Nat) : Action σ Unit :=
  if size < sizeLimit then Action.pure () else stop .sizeOverflow

/-- The state as it is now. -/
def get : Action σ σ where
  run state := .done state state

/-- Changes the state. -/
def modify (change : σ → σ) : Action σ Unit where
  run state := .done () (change state)

/-- The answer of a computation that needs no state. -/
def ofExcept : Except Fault α → Action σ α
  | .ok value => Action.pure value
  | .error fault => refuse fault

/-- A call, as an operation that might have been refused. -/
def ofCall (call : Call σ α) : Action σ α where
  run state :=
    match call.run state with
    | .ok (value, state) => .done value state
    | .error trap => .stopped trap

/-- Runs an operation and answers how it was answered. -/
def attempt (action : Action σ α) : Action σ (Except Fault α) where
  run state :=
    match action.run state with
    | .done value state => .done (.ok value) state
    | .refused fault state => .done (.error fault) state
    | .stopped trap => .stopped trap

/-- Does something more before a refusal is passed on. -/
def onRefusal (action : Action σ α) (more : Fault → Action σ Unit) :
    Action σ α where
  run state :=
    match action.run state with
    | .done value state => .done value state
    | .refused fault state =>
      ((more fault).bind fun _ => refuse fault).run state
    | .stopped trap => .stopped trap

/-- Runs an operation on a part of the state, which `view` takes out
and `update` puts back. -/
def within (view : τ → σ) (update : σ → τ → τ) (action : Action σ α) :
    Action τ α where
  run whole :=
    match action.run (view whole) with
    | .done value part => .done value (update part whole)
    | .refused fault part => .refused fault (update part whole)
    | .stopped trap => .stopped trap

/-! ### What they do to a state -/

@[simp]
theorem run_pure (value : α) (state : σ) :
    (pure value : Action σ α).run state = .done value state := rfl

theorem run_bind (action : Action σ α) (next : α → Action σ β)
    (state : σ) :
    (action >>= next).run state =
      match action.run state with
      | .done value state => (next value).run state
      | .refused fault state => .refused fault state
      | .stopped trap => .stopped trap := rfl

theorem run_map (change : α → β) (action : Action σ α) (state : σ) :
    (change <$> action).run state =
      match action.run state with
      | .done value state => .done (change value) state
      | .refused fault state => .refused fault state
      | .stopped trap => .stopped trap := rfl

@[simp]
theorem run_refuse (fault : Fault) (state : σ) :
    (refuse fault : Action σ α).run state = .refused fault state := rfl

@[simp]
theorem run_stop (trap : Trap) (state : σ) :
    (stop trap : Action σ α).run state = .stopped trap := rfl

theorem run_reserve {size : Nat} (fits : size < sizeLimit) (state : σ) :
    (reserve size).run state = .done () state := by
  rw [reserve, if_pos fits]
  rfl

theorem run_reserve_of_le {size : Nat} (large : sizeLimit ≤ size) (state : σ) :
    (reserve size).run state = .stopped .sizeOverflow := by
  rw [reserve, if_neg (Nat.not_lt.mpr large)]
  rfl

@[simp]
theorem run_get (state : σ) :
    (get : Action σ σ).run state = .done state state := rfl

@[simp]
theorem run_modify (change : σ → σ) (state : σ) :
    (modify change).run state = .done () (change state) := rfl

@[simp]
theorem run_ofExcept_ok (value : α) (state : σ) :
    (ofExcept (.ok value) : Action σ α).run state = .done value state :=
  rfl

@[simp]
theorem run_ofExcept_error (fault : Fault) (state : σ) :
    (ofExcept (.error fault) : Action σ α).run state
      = .refused fault state := rfl

theorem run_ofCall (call : Call σ α) (state : σ) :
    (ofCall call).run state =
      match call.run state with
      | .ok (value, state) => .done value state
      | .error trap => .stopped trap := rfl

theorem run_attempt (action : Action σ α) (state : σ) :
    action.attempt.run state =
      match action.run state with
      | .done value state => .done (.ok value) state
      | .refused fault state => .done (.error fault) state
      | .stopped trap => .stopped trap := rfl

theorem run_onRefusal (action : Action σ α) (more : Fault → Action σ Unit)
    (state : σ) :
    (action.onRefusal more).run state =
      match action.run state with
      | .done value state => .done value state
      | .refused fault state =>
        (more fault >>= fun _ => (refuse fault : Action σ α)).run state
      | .stopped trap => .stopped trap := rfl

theorem run_within (view : τ → σ) (update : σ → τ → τ)
    (action : Action σ α) (whole : τ) :
    (within view update action).run whole =
      match action.run (view whole) with
      | .done value part => .done value (update part whole)
      | .refused fault part => .refused fault (update part whole)
      | .stopped trap => .stopped trap := rfl

/-! ### The monad laws -/

instance : LawfulMonad (Action σ) :=
  LawfulMonad.mk' _
    (fun action => by
      ext state
      rw [run_map]
      cases action.run state <;> rfl)
    (fun _ _ => rfl)
    (fun action _ _ => by
      ext state
      simp only [run_bind]
      cases action.run state <;> rfl)

end Action

end MountSpace
