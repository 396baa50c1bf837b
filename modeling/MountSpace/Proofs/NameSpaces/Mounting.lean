import MountSpace.Proofs.NameSpaces.Routes
import MountSpace.Proofs.Routing.Table

/-!
# `MountSpace.Proofs.NameSpaces.Mounting`: a driver's way to a mount

To mount a device is to make a driver for it, to have the driver read the
device, and to put it behind a mount. Until then the driver is aside: no
path leads to it. To unmount is to take the mount out, and then to ask the
driver to give up its files. To make a device empty takes a driver too, but
that is never put behind a mount.

What these commands do to a name space follows from what their steps do:
`Mounting` and `Unmounting` say what is known before and after each step,
and `ensures_mount`, `ensures_format` and `ensures_unmount` put the steps
together.
-/

set_option autoImplicit false

namespace MountSpace.Proofs.NameSpaces

open Effects
open MountSpace.NameSpace
open Routing (insert_eq_ok_iff mem_of_find perm_place remove_eq_ok)

variable {δ σ α : Type}

/-! ### The table -/

/-- A path leads to a driver behind a mount. -/
theorem ensures_lookup_mounted {inv : NameSpace δ σ → Prop}
    (note : ∀ event, Keeps inv (note event)) (path : String) :
    Ensures inv (lookup path)
      (fun found space =>
        found.1.driver ∈ space.mounts.map Mount.driver ∧ inv space)
      (fun _ => inv) := by
  intro space start
  rw [run_lookup]
  cases routes : space.mounts.find (Path.resolve space.directory path) with
  | error fault => exact start
  | ok answer =>
    obtain ⟨mount, rest⟩ := answer
    exact ⟨List.mem_map_of_mem (mem_of_find routes), note _ space start⟩

/-- There is one more mount, or no room for it. -/
theorem ensures_enter_perm (mount : Mount DriverId)
    (first : NameSpace δ σ) :
    Ensures (fun space => space = first) (enter mount)
      (fun _ space => ∃ mounts, mounts.Perm (mount :: first.mounts)
        ∧ space = { first with mounts })
      (fun _ space => space = first) := by
  rintro space rfl
  rw [run_enter]
  cases inserted : space.mounts.insert mount with
  | error fault => exact rfl
  | ok mounts =>
    obtain ⟨_, rfl⟩ := insert_eq_ok_iff.mp inserted
    exact ⟨_, perm_place mount space.mounts, rfl⟩

/-- There is one mount less, or none at the path. -/
theorem ensures_withdraw_perm (path : String) (first : NameSpace δ σ) :
    Ensures (fun space => space = first) (withdraw path)
      (fun mount space => ∃ mounts, first.mounts.Perm (mount :: mounts)
        ∧ space = { first with mounts })
      (fun _ space => space = first) := by
  rintro space rfl
  rw [run_withdraw]
  cases removed : space.mounts.remove path with
  | error fault => exact rfl
  | ok answer =>
    obtain ⟨mount, mounts⟩ := answer
    obtain ⟨_, before, later, split, rfl⟩ := remove_eq_ok removed
    refine ⟨_, ?_, rfl⟩
    rw [split]
    exact List.perm_middle

/-! ### Steps -/

variable [Driver δ σ]

/-- What is known on the way of a new driver for a device: `before` there
is one, while it is `aside`, when it is `ready` to be put behind a mount,
and `after` it has been put there or given up. -/
structure Mounting (device : DeviceId) (before : NameSpace δ σ → Prop)
    (aside ready : DriverId → NameSpace δ σ → Prop)
    (after : NameSpace δ σ → Prop) : Prop where
  early {space : NameSpace δ σ} : before space → after space
  given {driver : DriverId} {space : NameSpace δ σ} :
    aside driver space → after space
  build (fsType : String) : Ensures before (build fsType device) aside
    (fun _ => before)
  noteAside (driver : DriverId) (event : Event) :
    Keeps (aside driver) (note event)
  format (driver : DriverId) : Keeps (aside driver) (call driver .format)
  mount (driver : DriverId) : Ensures (aside driver) (call driver .mount)
    (fun _ => ready driver) (fun _ => aside driver)
  enter (path fsType : String) (driver : DriverId) :
    Ensures (ready driver) (enter ⟨path, fsType, driver⟩)
      (fun _ => after) (fun _ => after)
  noteAfter (event : Event) : Keeps after (note event)

section

variable {device : DeviceId} {before after : NameSpace δ σ → Prop}
  {aside ready : DriverId → NameSpace δ σ → Prop}

/-- The second attempt is made with the same driver, still aside. -/
theorem Mounting.start (mounting : Mounting device before aside ready after)
    (path : String) (driver : DriverId) (autoFormat : Bool) :
    Ensures (aside driver) (start path driver autoFormat)
      (fun _ => ready driver) (fun _ => aside driver) := by
  have first : Ensures (aside driver) (call driver .mount).attempt
      (fun answer => if answer = .ok () then ready driver else aside driver)
      (fun _ => aside driver) :=
    ensures_attempt (mounting.mount driver)
  refine ensures_bind first fun answer => ?_
  cases answer with
  | ok value => exact fun _ ready => ready
  -- A refusal leaves the driver aside, so it can be asked again.
  | error fault =>
    have again : Ensures (aside driver)
        (note (.mountRetried path fault) >>= fun _ =>
          call driver .format >>= fun _ => call driver .mount)
        (fun _ => ready driver) (fun _ => aside driver) := by
      refine ensures_bind (mounting.noteAside driver _) fun _ => ?_
      refine ensures_bind (mounting.format driver) fun _ => ?_
      exact mounting.mount driver
    cases autoFormat with
    | true => exact again
    | false => exact fun _ aside => aside

theorem ensures_mount (mounting : Mounting device before aside ready after)
    (parent : ∀ path, Keeps before (requireParent path))
    (path fsType : String) (autoFormat : Bool) :
    Ensures before (mount path device fsType autoFormat)
      (fun _ => after) (fun _ => after) := by
  have early : ∀ (_ : Fault) (space : NameSpace δ σ),
      before space → after space := fun _ _ => mounting.early
  refine ensures_bind ((keeps_resolve path).refusing early) fun path => ?_
  refine ensures_bind ((parent path).refusing early) fun _ => ?_
  refine ensures_bind ((keeps_requireFree path).refusing early) fun _ => ?_
  refine ensures_bind ((mounting.build fsType).refusing early)
    fun driver => ?_
  refine ensures_bind ((mounting.start path driver autoFormat).refusing
    fun _ _ => mounting.given) fun _ => ?_
  refine ensures_bind (mounting.enter path fsType driver) fun _ => ?_
  exact mounting.noteAfter _

theorem ensures_format
    (mounting : Mounting device before aside ready after)
    (fsType : String) :
    Ensures before (format device fsType) (fun _ => after)
      (fun _ => after) := by
  refine ensures_bind ((mounting.build fsType).refusing
    fun _ _ => mounting.early) fun driver => ?_
  have empties : Ensures (aside driver) (call driver .format)
      (fun _ => after) (fun _ => after) :=
    (mounting.format driver).imp (fun _ aside => aside)
      (fun _ _ => mounting.given) (fun _ _ => mounting.given)
  refine ensures_bind empties fun _ => ?_
  exact mounting.noteAfter _

end

/-- What is known when a mount is taken out: `before`, while its driver is
`retired` and has not yet been asked to give up its files, and `after`
that. -/
structure Unmounting (before : String → NameSpace δ σ → Prop)
    (retired : DriverId → NameSpace δ σ → Prop)
    (after : NameSpace δ σ → Prop) : Prop where
  withdraw (path : String) : Ensures (before path) (withdraw path)
    (fun mount => retired mount.driver) (fun _ => after)
  noteRetired (driver : DriverId) (event : Event) :
    Keeps (retired driver) (note event)
  unmount (driver : DriverId) :
    Ensures (retired driver) (call driver .unmount)
      (fun _ => after) (fun _ => after)
  noteAfter (event : Event) : Keeps after (note event)

theorem ensures_unmount {first after : NameSpace δ σ → Prop}
    {before : String → NameSpace δ σ → Prop}
    {retired : DriverId → NameSpace δ σ → Prop}
    (unmounting : Unmounting before retired after) {path : String}
    (resolves : ∀ space, first space →
      before (Path.resolve space.directory path) space) :
    Ensures first (unmount path) (fun _ => after) (fun _ => after) := by
  have resolved : Ensures first (resolve path) before (fun _ => after) :=
    resolves
  refine ensures_bind resolved fun path => ?_
  refine ensures_bind (unmounting.withdraw path) fun mount => ?_
  refine ensures_bind (ensures_note (unmounting.noteRetired _ _))
    fun _ => ?_
  exact ensures_onRefusal (unmounting.unmount mount.driver)
    fun fault => unmounting.noteAfter _

/-! ### Commands -/

/-- A calm property is kept by every command if it is kept when files are
opened and closed, and by the steps of mounting and unmounting. -/
theorem keeps_run_of_mounting {inv : NameSpace δ σ → Prop}
    {aside ready retired : DriverId → NameSpace δ σ → Prop}
    (same : Indifferent inv) (calm : Calm Scope.whole inv)
    (mounting : ∀ device, Mounting device inv aside ready inv)
    (unmounting : Unmounting (fun _ => inv) retired inv)
    (command : Command δ α)
    (onOpen : ∀ opening, opening? command = some opening →
      Keeps inv (run command))
    (onClose : ∀ descriptor, closing? command = some descriptor →
      Keeps inv (close descriptor)) :
    Keeps inv (run command) := by
  have tells (path : String) : Keeps inv (stat path) :=
    keeps_stat calm trivial
  refine keeps_run_of_calm calm same.register same.unregister
    (fun device => ensures_format (mounting device)) ?_
    (fun _ => ensures_unmount unmounting fun _ start => start)
    (same.change tells) command onOpen onClose
  intro path device fsType autoFormat
  exact ensures_mount (mounting device)
    (fun _ => keeps_requireParent (tells _)) path fsType autoFormat

end MountSpace.Proofs.NameSpaces
