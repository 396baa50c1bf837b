import MountSpace.Volume
import MountSpace.Proofs.Effects

/-!
# `MountSpace.Proofs.Storage.Oblivious`: events do not matter

Whoever works on a medium notes events, and never looks at those that are
there. So what an operation comes to depends on the device alone: with other
events noted before, it ends in the same way and leaves the same device.

* `Oblivious`: the property, with a rule for each way to put operations
  together.
* `mounts_of_mounts`: a device that can be mounted can be mounted whatever has
  been noted before.
-/

set_option autoImplicit false

namespace MountSpace.Proofs.Storage

open Effects

variable {σ α β : Type}

/-- How an operation ends, but for the events. -/
def unnoted : Ending (Medium σ) α → Ending σ α
  | .done value medium => .done value medium.device
  | .refused fault medium => .refused fault medium.device
  | .stopped trap => .stopped trap

/-- What an operation comes to does not depend on what has been noted. -/
def Oblivious (action : Action (Medium σ) α) : Prop :=
  ∀ first second : Medium σ, first.device = second.device →
    unnoted (action.run first) = unnoted (action.run second)

/-! ### Operations put together -/

theorem oblivious_pure (value : α) :
    Oblivious (pure value : Action (Medium σ) α) :=
  fun _ _ same => congrArg (Ending.done value) same

theorem oblivious_refuse (fault : Fault) :
    Oblivious (Action.refuse fault : Action (Medium σ) α) :=
  fun _ _ same => congrArg (Ending.refused fault) same

theorem oblivious_ofExcept (answer : Except Fault α) :
    Oblivious (Action.ofExcept answer : Action (Medium σ) α) := by
  cases answer with
  | ok value => exact oblivious_pure value
  | error fault => exact oblivious_refuse fault

theorem oblivious_note (event : Event) :
    Oblivious (Medium.note event : Action (Medium σ) Unit) :=
  fun _ _ same => congrArg (Ending.done ()) same

theorem oblivious_ask (call : Call σ α) : Oblivious (Medium.ask call) := by
  intro first second same
  rw [Medium.run_ask, Medium.run_ask, same]
  cases call.run second.device <;> rfl

theorem oblivious_ite {condition : Prop} [Decidable condition]
    {action other : Action (Medium σ) α} (yes : Oblivious action)
    (no : Oblivious other) :
    Oblivious (if condition then action else other) := by
  by_cases holds : condition
  · rw [if_pos holds]
    exact yes
  · rw [if_neg holds]
    exact no

/-- The second operation starts from the same device. -/
theorem oblivious_bind {action : Action (Medium σ) α}
    {next : α → Action (Medium σ) β} (first : Oblivious action)
    (second : ∀ value, Oblivious (next value)) :
    Oblivious (action >>= next) := by
  intro medium other same
  have agree := first medium other same
  rw [Action.run_bind, Action.run_bind]
  cases one : action.run medium with
  | done value left =>
    cases two : action.run other with
    | done again after =>
      rw [one, two] at agree
      obtain ⟨rfl, device⟩ := Ending.done.inj agree
      exact second value left after device
    | refused fault after | stopped trap =>
      rw [one, two] at agree
      cases agree
  | refused fault left =>
    cases two : action.run other with
    | refused again after =>
      rw [one, two] at agree
      obtain ⟨rfl, device⟩ := Ending.refused.inj agree
      exact congrArg (Ending.refused fault) device
    | done value after | stopped trap =>
      rw [one, two] at agree
      cases agree
  | stopped trap =>
    cases two : action.run other with
    | stopped again =>
      rw [one, two] at agree
      obtain rfl := Ending.stopped.inj agree
      rfl
    | done value after | refused fault after =>
      rw [one, two] at agree
      cases agree

theorem oblivious_onRefusal {action : Action (Medium σ) α}
    {more : Fault → Action (Medium σ) Unit} (first : Oblivious action)
    (second : ∀ fault, Oblivious (more fault)) :
    Oblivious (action.onRefusal more) := by
  intro medium other same
  have agree := first medium other same
  rw [Action.run_onRefusal, Action.run_onRefusal]
  cases one : action.run medium with
  | refused fault left =>
    cases two : action.run other with
    | refused again after =>
      rw [one, two] at agree
      obtain ⟨rfl, device⟩ := Ending.refused.inj agree
      exact oblivious_bind (second fault) (fun _ => oblivious_refuse fault)
        left after device
    | done value after | stopped trap =>
      rw [one, two] at agree
      cases agree
  | done value left =>
    cases two : action.run other with
    | done again after =>
      rw [one, two] at agree
      exact agree
    | refused fault after | stopped trap =>
      rw [one, two] at agree
      cases agree
  | stopped trap =>
    cases two : action.run other with
    | stopped again =>
      rw [one, two] at agree
      exact agree
    | done value after | refused fault after =>
      rw [one, two] at agree
      cases agree

/-! ### To read a tree -/

section

variable [BlockDevice σ]

theorem oblivious_control (request : Control) :
    Oblivious (Medium.control request : Action (Medium σ) Unit) :=
  oblivious_bind (oblivious_ask _) fun _ =>
    oblivious_ite (oblivious_refuse _) (oblivious_pure _)

theorem oblivious_geometry :
    Oblivious (Medium.geometry : Action (Medium σ) Geometry) := by
  refine oblivious_bind (oblivious_ask _) fun size => ?_
  cases size with
  | none => exact oblivious_refuse _
  | some size =>
    refine oblivious_bind (oblivious_ask _) fun count => ?_
    cases count with
    | none => exact oblivious_refuse _
    | some count => exact oblivious_pure _

theorem oblivious_readBlock (block length : Nat) :
    Oblivious (Medium.readBlock block length : Action (Medium σ) Bytes) := by
  refine oblivious_bind (oblivious_ask _) fun found => ?_
  cases found with
  | none => exact oblivious_refuse _
  | some data => exact oblivious_pure _

/-- By induction along the blocks. -/
theorem oblivious_readBlocks (blockSize block length : Nat)
    (before : Bytes) :
    Oblivious (Medium.readBlocks blockSize block length before :
      Action (Medium σ) Bytes) := by
  induction block, length, before
    using Medium.readBlocks.induct blockSize with
  | case1 block length before more ih =>
    rw [Medium.readBlocks, dif_pos more]
    exact oblivious_bind (oblivious_readBlock _ _) ih
  | case2 block length before none =>
    rw [Medium.readBlocks, dif_neg none]
    exact oblivious_pure _

theorem oblivious_load (geometry : Geometry) :
    Oblivious (Tree.load geometry : Action (Medium σ) Tree) := by
  refine oblivious_ite (oblivious_refuse _) ?_
  refine oblivious_bind (oblivious_readBlock _ _) fun first => ?_
  refine oblivious_bind (oblivious_ofExcept _) fun superblock => ?_
  refine oblivious_ite ?_ (oblivious_refuse _)
  refine oblivious_bind (oblivious_readBlocks _ _ _ _) fun image => ?_
  refine oblivious_bind (oblivious_ofExcept _) fun root => ?_
  cases root with
  | directory entries => exact oblivious_pure _
  | file data => exact oblivious_refuse _

/-- What a volume does with its device when it is mounted. -/
def findTree : Action (Medium σ) (Tree × Geometry) := do
  Medium.control .start
  let geometry ← Medium.geometry
  let root ← (Tree.load geometry).onRefusal fun fault =>
    Medium.note (.volumeMountFailed fault)
  return (root, geometry)

theorem oblivious_findTree :
    Oblivious (findTree : Action (Medium σ) (Tree × Geometry)) := by
  refine oblivious_bind (oblivious_control _) fun _ => ?_
  refine oblivious_bind oblivious_geometry fun geometry => ?_
  exact oblivious_bind (oblivious_onRefusal (oblivious_load geometry)
    fun _ => oblivious_note _) fun _ => oblivious_pure _

/-- Where a tree is found nothing is refused any more. -/
theorem mount_eq_done_iff {site : Site Volume σ} :
    (∃ left, Volume.mount.run site = .done () left)
      ↔ ∃ found medium, findTree.run site.medium = .done found medium := by
  have found : Volume.mount.run site
      = (Site.onMedium findTree >>= fun found => do
          Site.setDriver ⟨some ⟨found.1, [], 0, found.2⟩⟩
          Site.onMedium (Medium.note
            (.volumeMounted found.2.blockCount found.2.blockSize))).run
        site := rfl
  rw [found, Action.run_bind, Site.run_onMedium]
  cases findTree.run site.medium with
  | done value medium => exact ⟨fun _ => ⟨_, _, rfl⟩, fun _ => ⟨_, rfl⟩⟩
  | refused fault medium | stopped trap => simp

/-- A volume can be mounted on a device or it cannot, whatever has been
noted before. -/
theorem mounts_of_mounts {volume : Volume} {device : σ}
    {events : List Event} {left : Site Volume σ}
    (mounts : Volume.mount.run ⟨volume, ⟨device, events⟩⟩ = .done () left)
    (other : List Event) :
    ∃ again, Volume.mount.run ⟨volume, ⟨device, other⟩⟩
      = .done () again := by
  obtain ⟨value, medium, one⟩ := mount_eq_done_iff.mp ⟨left, mounts⟩
  have agree := oblivious_findTree ⟨device, events⟩ ⟨device, other⟩ rfl
  rw [one] at agree
  refine mount_eq_done_iff.mpr ?_
  show ∃ found medium, findTree.run ⟨device, other⟩ = .done found medium
  cases two : findTree.run (⟨device, other⟩ : Medium σ) with
  | done again after => exact ⟨_, _, rfl⟩
  | refused fault after | stopped trap =>
    rw [two] at agree
    cases agree

end

end MountSpace.Proofs.Storage
