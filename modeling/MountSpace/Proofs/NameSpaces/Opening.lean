import MountSpace.Proofs.NameSpaces.Descriptors
import MountSpace.Proofs.NameSpaces.Routes

/-!
# `MountSpace.Proofs.NameSpaces.Opening`: how a file gets its descriptor

To open a file takes two steps. First its driver opens it (`begin`), and
then it gets a descriptor (`settle`), or is closed again if there is none
left. In between the driver has a file open that no descriptor leads to.
When a descriptor is closed it is freed before the driver is asked, so
again there is such a file for a while.

Four commands open a file, and two of them close it in the end.
`ensures_run_of_opening` says what all four do.
-/

set_option autoImplicit false

namespace MountSpace.Proofs.NameSpaces

open Effects
open MountSpace.NameSpace

variable {δ σ α : Type} [Driver δ σ]

/-- Has the driver that a path leads to open the file. -/
def begin (path mode : String) (permissions : UInt32) :
    Action (NameSpace δ σ) (OpenFile DriverId) := do
  let flags ← Action.ofExcept (OpenFlags.ofMode mode)
  let (mount, rest) ← lookup path
  let file ← call mount.driver (.openFile rest flags permissions)
  return ⟨file, mount.driver, mount.path⟩

/-- Has a driver close a file that got no descriptor. -/
def withdrawFile (opened : OpenFile DriverId) :
    Action (NameSpace δ σ) Unit := do
  match ← (call opened.driver (.close opened.file)).attempt with
  | .ok () => return
  | .error fault => note (.withdrawFailed fault)

/-- Gives a file a descriptor, or has it closed again. -/
def settle (opened : OpenFile DriverId) : Action (NameSpace δ σ) Nat :=
  (inDescriptors (DescriptorTable.alloc opened)).onRefusal fun _ =>
    withdrawFile opened

theorem openFile_eq (path mode : String) (permissions : UInt32) :
    (openFile path mode permissions : Action (NameSpace δ σ) Nat)
      = begin path mode permissions >>= settle := by
  simp only [openFile, begin, bind_assoc, pure_bind]
  rfl

section

variable {space : NameSpace δ σ} {opened : OpenFile DriverId}
  {descriptor : Nat}

/-- A file gets its descriptor when there is one. -/
theorem run_settle_of_alloc {table : DescriptorTable DriverId}
    (alloc : (DescriptorTable.alloc opened).run space.descriptors
      = .done descriptor table) :
    (settle opened).run space
      = .done descriptor { space with descriptors := table } := by
  rw [settle, Action.run_onRefusal, inDescriptors, Action.run_within, alloc]

/-- To close a descriptor is to free it, and then to ask its driver. -/
theorem run_close_of_held
    (held : space.descriptors.get descriptor = .ok opened) :
    (close descriptor).run space
      = ((call opened.driver (.close opened.file)).onRefusal fun fault =>
          note (.closeFailed descriptor fault)).run
        { space with descriptors := freed space.descriptors descriptor } := by
  rw [close, Action.run_bind, inDescriptors, Action.run_within,
    run_close_of_ok held]
  rfl

end

/-- A file gets a descriptor, or its driver is asked to close it. -/
theorem ensures_settle_of {opened : OpenFile DriverId}
    {before after : NameSpace δ σ → Prop}
    {done : Nat → NameSpace δ σ → Prop}
    (gives : Ensures before (inDescriptors (DescriptorTable.alloc opened))
      done (fun _ => before))
    (drops : Ensures before (call opened.driver (.close opened.file))
      (fun _ => after) (fun _ => after))
    (notes : ∀ event, Keeps after (note event)) :
    Ensures before (settle opened) done (fun _ => after) := by
  have drops : Ensures before
      (call opened.driver (.close opened.file) :
        Action (NameSpace δ σ) Unit).attempt
      (fun _ => after) (fun _ => after) := ensures_attempt drops
  refine ensures_onRefusal gives fun fault => ?_
  refine ensures_bind drops fun answer => ?_
  cases answer with
  | ok _ => exact keeps_pure _
  | error fault => exact notes _

/-- A descriptor is freed, and its driver is asked to close the file. -/
theorem ensures_close_of {descriptor : Nat}
    {before after : NameSpace δ σ → Prop}
    {freed : OpenFile DriverId → NameSpace δ σ → Prop}
    (frees : Ensures before (inDescriptors
      (DescriptorTable.close descriptor)) freed (fun _ => after))
    (drops : ∀ opened, Ensures (freed opened)
      (call opened.driver (.close opened.file))
      (fun _ => after) (fun _ => after))
    (notes : ∀ event, Keeps after (note event)) :
    Ensures before (close descriptor) (fun _ => after) (fun _ => after) := by
  refine ensures_bind frees fun opened => ?_
  exact ensures_onRefusal (drops opened) fun fault => notes _

/-- A command that opens a file may move bytes then, and close it. -/
theorem ensures_run_of_opening {before after : NameSpace δ σ → Prop}
    {opened : Nat → NameSpace δ σ → Prop} {scope : Nat → Scope}
    {opening : Opening}
    (opens : Ensures before
      (openFile opening.path opening.mode opening.permissions) opened
      (fun _ => after))
    (calm : ∀ descriptor, Calm (scope descriptor) (opened descriptor))
    (path : ∀ descriptor, (scope descriptor).paths opening.path)
    (descriptor : ∀ descriptor, (scope descriptor).descriptors descriptor)
    (stays : ∀ descriptor space, opened descriptor space → after space)
    (closes : ∀ descriptor, Ensures (opened descriptor) (close descriptor)
      (fun _ => after) (fun _ => after))
    {command : Command δ α} (is : opening? command = some opening) :
    Ensures before (run command) (fun _ => after) (fun _ => after) := by
  cases command with
  | openFile | openDefault =>
    cases is
    exact opens.imp (fun _ start => start) stays (fun _ _ known => known)
  | readWhole =>
    cases is
    refine ensures_bind opens fun number => ?_
    exact ensures_closing (keeps_receiveFile (calm number)
      (descriptor number) (path number)) (fun _ => closes number)
      (fun _ => closes number)
  | writeWhole =>
    cases is
    refine ensures_bind opens fun number => ?_
    exact ensures_closing
      (keeps_sendAll (calm number) (descriptor number) _)
      (fun _ => closes number) (fun _ => closes number)
  | _ => cases is

end MountSpace.Proofs.NameSpaces
