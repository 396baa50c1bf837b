import MountSpace.Bytes
import MountSpace.Effect

/-!
# `MountSpace.Device`: devices that hold blocks of bytes

A block device is anything with a state that can be read, written and
controlled. It may fail any call, change its state in any way, or stop
at an arithmetic limit; what a good device promises is stated where it
is needed.

* `Control`: the requests other than reading and writing, each with the
  number it has in the device protocol.
* `BlockDevice σ`: a device whose state is a `σ`. A read that succeeds
  fills the whole buffer, which its type says.
* `BlockDevice.blockSize`, `blockCount`, `eraseBlock`: what the answers
  to the control requests mean.
-/

set_option autoImplicit false

namespace MountSpace

/-- A request to a device other than reading and writing. -/
inductive Control where
  | start
  | shutdown
  | sync
  | blockCount
  | blockSize
  | erase (block : Nat)
  deriving DecidableEq, Repr

namespace Control

/-- The number of a request in the device protocol. -/
def code : Control → Nat
  | start => 1
  | shutdown => 2
  | sync => 3
  | blockCount => 4
  | blockSize => 5
  | erase _ => 6

/-- The request with the given number and argument, if there is one. -/
def ofCode? (code argument : Nat) : Option Control :=
  match code with
  | 1 => some start
  | 2 => some shutdown
  | 3 => some sync
  | 4 => some blockCount
  | 5 => some blockSize
  | 6 => some (erase argument)
  | _ => none

theorem ofCode?_code (request : Control) (argument : Nat)
    (h : ∀ block, request = erase block → argument = block) :
    ofCode? request.code argument = some request := by
  cases request with
  | erase block => rw [h block rfl]; rfl
  | _ => rfl

end Control

/-- A device that holds blocks of bytes and has a state of type `σ`. -/
class BlockDevice (σ : Type) where
  /-- Fills a buffer of `length` bytes from the given block, from
  `offset` within it on, or fails. -/
  read (block offset length : Nat) :
    Call σ (Option (Vector UInt8 length))
  /-- Writes to the given block, from `offset` within it on, and says
  whether that succeeded. -/
  write (block offset : Nat) (data : Bytes) : Call σ Bool
  /-- Answers a request; a negative answer is a failure. -/
  control (request : Control) : Call σ Int

namespace BlockDevice

variable {σ : Type} [BlockDevice σ]

/-- The size of a block, if the device has one to tell. -/
def blockSize : Call σ (Option Nat) := do
  let answer ← control .blockSize
  return if 0 < answer then some answer.toNat else none

/-- The number of blocks, if the device has one to tell. -/
def blockCount : Call σ (Option Nat) := do
  let answer ← control .blockCount
  return if 0 ≤ answer then some answer.toNat else none

/-- Erases a block, and says whether that succeeded. -/
def eraseBlock (block : Nat) : Call σ Bool := do
  let answer ← control (.erase block)
  return decide (0 ≤ answer)

theorem run_blockSize (state : σ) :
    (blockSize : Call σ (Option Nat)).run state =
      match (control .blockSize : Call σ Int).run state with
      | .ok (answer, state) =>
        .ok (if 0 < answer then some answer.toNat else none, state)
      | .error trap => .error trap := by
  show Except.bind ((control .blockSize : Call σ Int).run state) _ = _
  cases (control .blockSize : Call σ Int).run state <;> rfl

theorem run_blockCount (state : σ) :
    (blockCount : Call σ (Option Nat)).run state =
      match (control .blockCount : Call σ Int).run state with
      | .ok (answer, state) =>
        .ok (if 0 ≤ answer then some answer.toNat else none, state)
      | .error trap => .error trap := by
  show Except.bind ((control .blockCount : Call σ Int).run state) _ = _
  cases (control .blockCount : Call σ Int).run state <;> rfl

theorem run_eraseBlock (block : Nat) (state : σ) :
    (eraseBlock block : Call σ Bool).run state =
      match (control (.erase block) : Call σ Int).run state with
      | .ok (answer, state) => .ok (decide (0 ≤ answer), state)
      | .error trap => .error trap := by
  show Except.bind ((control (.erase block) : Call σ Int).run state) _ = _
  cases (control (.erase block) : Call σ Int).run state <;> rfl

end BlockDevice

end MountSpace
