import MountSpace.Device
import MountSpace.Keyed

/-!
# `MountSpace.Device.Probe`: a device that is watched and made to fail

A probe stands in front of a device. It keeps a list of the calls it
gets, and fails those that it is told to fail; all others are answered
by the device behind it. A call that the probe fails does not reach the
device.
-/

set_option autoImplicit false

namespace MountSpace

namespace Probe

/-- A call that a probe got. -/
inductive Observed where
  | read (block offset length : Nat)
  | write (block offset length : Nat)
  | control (request : Control)
  deriving DecidableEq, Repr

/-- The calls to fail. -/
structure Faults where
  /-- Blocks whose reads fail. -/
  reads : List Nat := []
  /-- Blocks whose writes fail. -/
  writes : List Nat := []
  /-- Blocks that cannot be erased. -/
  erases : List Nat := []
  /-- Answers to control requests, under their numbers. -/
  answers : Keyed Nat Int := []
  /-- The number of writes after which all others fail. -/
  writesLeft : Option Nat := none
  deriving DecidableEq, Repr

end Probe

/-- A device with a watcher in front. -/
structure Probe (σ : Type) where
  /-- The device behind. -/
  device : σ
  /-- The calls to fail. -/
  faults : Probe.Faults := {}
  /-- The calls so far, the last one first. -/
  calls : List Probe.Observed := []
  deriving DecidableEq, Repr

namespace Probe

variable {σ α : Type}

/-- Adds a call to those so far. -/
def watch (call : Observed) : Call (Probe σ) Unit :=
  modify fun probe => { probe with calls := call :: probe.calls }

/-- Passes a call on to the device. -/
def pass (call : Call σ α) : Call (Probe σ) α :=
  StateT.mk fun probe => do
    let (value, device) ← call.run probe.device
    return (value, { probe with device })

theorem run_pass (call : Call σ α) (probe : Probe σ) :
    (pass call).run probe =
      match call.run probe.device with
      | .ok (value, device) => .ok (value, { probe with device })
      | .error trap => .error trap := by
  show Except.bind (call.run probe.device) _ = _
  cases call.run probe.device <;> rfl

variable [BlockDevice σ]

/-- Reads from the device unless the block is one to fail. -/
def read (block offset length : Nat) :
    Call (Probe σ) (Option (Vector UInt8 length)) := do
  watch (.read block offset length)
  let probe ← get
  if block ∈ probe.faults.reads then return none
  pass (BlockDevice.read block offset length)

/-- Writes to the device unless the block is one to fail or no write is
left. Whether or not the device takes a write, it counts. -/
def write (block offset : Nat) (data : Bytes) :
    Call (Probe σ) Bool := do
  watch (.write block offset data.length)
  let probe ← get
  if block ∈ probe.faults.writes then return false
  match probe.faults.writesLeft with
  | none => pass (BlockDevice.write block offset data)
  | some 0 => return false
  | some (left + 1) =>
    set { probe with
      faults := { probe.faults with writesLeft := some left } }
    pass (BlockDevice.write block offset data)

/-- Gives the answer that was set for the request, and otherwise asks
the device, unless the request is to erase a block to fail. -/
def control (request : Control) : Call (Probe σ) Int := do
  watch (.control request)
  let probe ← get
  match Keyed.get? probe.faults.answers request.code with
  | some answer => return answer
  | none =>
    match request with
    | .erase block =>
      if block ∈ probe.faults.erases then return -1
      pass (BlockDevice.control request)
    | _ => pass (BlockDevice.control request)

/-! ### What becomes of a call -/

theorem run_read (block offset length : Nat) (probe : Probe σ) :
    (read block offset length).run probe =
      let watched :=
        { probe with calls := .read block offset length :: probe.calls }
      if block ∈ probe.faults.reads then .ok (none, watched)
      else (pass (BlockDevice.read block offset length)).run watched := by
  show (if block ∈ probe.faults.reads then _ else _ :
    Call (Probe σ) _).run _ = _
  split <;> rfl

theorem run_write (block offset : Nat) (data : Bytes) (probe : Probe σ) :
    (write block offset data).run probe =
      let watched := { probe with
        calls := .write block offset data.length :: probe.calls }
      if block ∈ probe.faults.writes then .ok (false, watched)
      else match probe.faults.writesLeft with
        | none => (pass (BlockDevice.write block offset data)).run watched
        | some 0 => .ok (false, watched)
        | some (left + 1) =>
          (pass (BlockDevice.write block offset data)).run
            { watched with
              faults := { probe.faults with writesLeft := some left } } := by
  obtain ⟨device, faults, calls⟩ := probe
  obtain ⟨reads, writes, erases, answers, writesLeft⟩ := faults
  show (if block ∈ writes then _ else _ : Call (Probe σ) Bool).run _ = _
  by_cases failing : block ∈ writes
  · simp only [if_pos failing]
    rfl
  · simp only [if_neg failing]
    cases writesLeft with
    | none => rfl
    | some count => cases count <;> rfl

theorem run_control (request : Control) (probe : Probe σ) :
    (control request).run probe =
      let watched :=
        { probe with calls := .control request :: probe.calls }
      match Keyed.get? probe.faults.answers request.code with
      | some answer => .ok (answer, watched)
      | none =>
        match request with
        | .erase block =>
          if block ∈ probe.faults.erases then .ok (-1, watched)
          else (pass (BlockDevice.control (.erase block))).run watched
        | _ => (pass (BlockDevice.control request)).run watched := by
  obtain ⟨device, faults, calls⟩ := probe
  show (match Keyed.get? faults.answers request.code with
    | some answer => _
    | none => _ : Call (Probe σ) Int).run _ = _
  cases Keyed.get? faults.answers request.code with
  | some answer => rfl
  | none =>
    cases request with
    | erase block =>
      show (if block ∈ faults.erases then _ else _ :
        Call (Probe σ) Int).run _ = _
      simp only
      split <;> rfl
    | _ => rfl

instance : BlockDevice (Probe σ) where
  read := read
  write := write
  control := control

end Probe

end MountSpace
