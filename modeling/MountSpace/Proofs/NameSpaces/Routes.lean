import MountSpace.NameSpace.Command
import MountSpace.Proofs.Volumes.Plans

/-!
# `MountSpace.Proofs.NameSpaces.Routes`: what commands do to mounts

Most commands note events, use descriptors and ask drivers about files,
and do nothing else. So they keep what is kept by all of that (`Steady`).

Which drivers are asked depends on the paths and the descriptors that a
command is given (`Scope`). What is kept while only these are asked, and no
file is opened or closed, is `Calm`. The rules for the parts of commands are
stated for that, and `keeps_run_of_calm` puts them together for all commands
but those that open a file or do more than to ask.

Types are registered and the working directory is changed without any
driver. Properties of drivers and of what leads to them keep (`Indifferent`).

The routes of a name space are its mounts and its working directory. All
that can happen to paths depends on them alone, and what depends on them
alone (`OnlyRoutes`) is kept by everything that goes on in the world
below and among descriptors. Here `keeps_run` leaves three commands:
mounting, unmounting and going to another directory.
-/

set_option autoImplicit false

namespace MountSpace.Proofs.NameSpaces

open Effects
open MountSpace.NameSpace
open Volumes (AboutFiles Passing)

variable {δ σ α : Type} {inv : NameSpace δ σ → Prop}

/-- A property of name spaces that depends on the mounts and the working
directory alone. -/
def OnlyRoutes (inv : NameSpace δ σ → Prop) : Prop :=
  ∀ space other : NameSpace δ σ, other.mounts = space.mounts →
    other.directory = space.directory → inv space → inv other

/-- The mounts and the descriptors are the same, and so are the drivers with
their devices. -/
structure Alike (space other : NameSpace δ σ) : Prop where
  mounts : other.mounts = space.mounts
  descriptors : other.descriptors = space.descriptors
  drivers : other.world.drivers = space.world.drivers
  devices : other.world.devices = space.world.devices

/-- A property of name spaces for which events do not matter, nor the types
that are known, nor the working directory. -/
def Indifferent (inv : NameSpace δ σ → Prop) : Prop :=
  ∀ space other : NameSpace δ σ, Alike space other → inv space → inv other

theorem Indifferent.events (same : Indifferent inv)
    {space : NameSpace δ σ} (start : inv space) (events : List Event) :
    inv { space with world := { space.world with events } } :=
  same space _ ⟨rfl, rfl, rfl, rfl⟩ start

theorem Indifferent.note (same : Indifferent inv) (event : Event) :
    Keeps inv (note event : Action (NameSpace δ σ) Unit) :=
  fun _ start => same.events start _

/-! ### Parts of commands -/

theorem keeps_inWorld (routes : OnlyRoutes inv)
    (action : Action (World δ σ) α) : Keeps inv (inWorld action) := by
  refine keeps_within ?_ action
  exact fun _ space => routes space _ rfl rfl

theorem keeps_inDescriptors (routes : OnlyRoutes inv)
    (action : Action (DescriptorTable DriverId) α) :
    Keeps inv (inDescriptors action : Action (NameSpace δ σ) α) := by
  refine keeps_within ?_ action
  exact fun _ space => routes space _ rfl rfl

theorem keeps_note (routes : OnlyRoutes inv) (event : Event) :
    Keeps inv (note event : Action (NameSpace δ σ) Unit) :=
  keeps_inWorld routes _

/-- Events have been noted or forgotten, and nothing else has happened. -/
def Noted (space state : NameSpace δ σ) : Prop :=
  ∃ events, state
    = { space with world := { space.world with events } }

/-- To look a path up is to search the mounts. -/
theorem ensures_lookup_noted (space : NameSpace δ σ) (path : String) :
    Ensures (Noted space) (lookup path)
      (fun found state => space.mounts.find
        (Path.resolve space.directory path) = .ok found ∧ Noted space state)
      (fun _ => Noted space) := by
  rintro _ ⟨events, rfl⟩
  rw [run_lookup]
  cases found : space.mounts.find (Path.resolve space.directory path) with
  | ok answer => exact ⟨rfl, _, rfl⟩
  | error fault => exact ⟨events, rfl⟩

/-- Nothing that is noted is refused. -/
theorem ensures_note {event : Event}
    {refused : Fault → NameSpace δ σ → Prop}
    (keeps : Keeps inv (note event : Action (NameSpace δ σ) Unit)) :
    Ensures inv (note event) (fun _ => inv) refused :=
  fun space start => keeps space start

theorem keeps_resolve (path : String) :
    Keeps inv (resolve path : Action (NameSpace δ σ) String) :=
  fun _ start => start

theorem keeps_requireWindow (buffer : Bytes) (offset length : Nat) :
    Keeps inv (requireWindow buffer offset length :
      Action (NameSpace δ σ) Unit) :=
  keeps_ite (fun _ => keeps_pure _) (fun _ => keeps_refuse _)

theorem keeps_requireFree (path : String) :
    Keeps inv (requireFree path : Action (NameSpace δ σ) Unit) := by
  refine keeps_bind keeps_get ?_
  intro space
  exact keeps_ite (fun _ => keeps_refuse _) (fun _ => keeps_pure _)

theorem keeps_build (routes : OnlyRoutes inv) (fsType : String)
    (device : DeviceId) :
    Keeps inv (build fsType device :
      Action (NameSpace δ σ) DriverId) := by
  refine keeps_bind keeps_get ?_
  intro space
  refine keeps_bind (keeps_ofExcept _) ?_
  intro fresh
  exact keeps_inWorld routes _

/-- Nothing else than the types that are known changes. -/
theorem keeps_register
    (notes : ∀ event, Keeps inv (note event : Action (NameSpace δ σ) Unit))
    (free : ∀ space registry, inv space → inv { space with registry })
    (fsType : String) (fresh : δ) :
    Keeps inv (register fsType fresh :
      Action (NameSpace δ σ) Unit) := by
  refine keeps_bind (notes _) fun _ => ?_
  exact keeps_modify fun space => free space _

theorem keeps_unregister
    (notes : ∀ event, Keeps inv (note event : Action (NameSpace δ σ) Unit))
    (free : ∀ space registry, inv space → inv { space with registry })
    (fsType : String) :
    Keeps inv (unregister fsType : Action (NameSpace δ σ) Unit) := by
  refine keeps_bind keeps_get fun _ => ?_
  refine keeps_bind (keeps_ofExcept _) fun registry => ?_
  refine keeps_bind (keeps_modify ?_) fun _ => notes _
  exact fun space => free space registry

theorem Indifferent.register (same : Indifferent inv) (fsType : String)
    (fresh : δ) :
    Keeps inv (register fsType fresh : Action (NameSpace δ σ) Unit) :=
  keeps_register same.note
    (fun space _ => same space _ ⟨rfl, rfl, rfl, rfl⟩) _ _

theorem Indifferent.unregister (same : Indifferent inv) (fsType : String) :
    Keeps inv (unregister fsType : Action (NameSpace δ σ) Unit) :=
  keeps_unregister same.note
    (fun space _ => same space _ ⟨rfl, rfl, rfl, rfl⟩) _

variable [Driver δ σ]

theorem keeps_call (routes : OnlyRoutes inv) (driver : DriverId)
    (request : Request α) :
    Keeps inv (call driver request : Action (NameSpace δ σ) α) :=
  keeps_inWorld routes _

theorem keeps_format (routes : OnlyRoutes inv) (device : DeviceId)
    (fsType : String) :
    Keeps inv (format device fsType : Action (NameSpace δ σ) Unit) := by
  refine keeps_bind (keeps_build routes _ _) ?_
  intro driver
  refine keeps_bind (keeps_call routes _ _) ?_
  intro _
  exact keeps_note routes _

theorem keeps_start (routes : OnlyRoutes inv) (path : String)
    (driver : DriverId) (autoFormat : Bool) :
    Keeps inv (start path driver autoFormat :
      Action (NameSpace δ σ) Unit) := by
  refine keeps_bind (keeps_attempt (keeps_call routes _ _)) ?_
  intro answer
  cases answer with
  | ok _ => exact keeps_pure _
  | error fault =>
    refine keeps_ite (fun _ => ?_) (fun _ => keeps_refuse _)
    refine keeps_bind (keeps_note routes _) ?_
    intro _
    refine keeps_bind (keeps_call routes _ _) ?_
    intro _
    exact keeps_call routes _ _

/-! ### Calm properties -/

/-- Drivers that may be asked, and paths and descriptors that lead to
them. -/
structure Scope where
  drivers : DriverId → Prop
  paths : String → Prop
  descriptors : Nat → Prop

/-- All drivers, paths and descriptors. -/
def Scope.whole : Scope :=
  ⟨fun _ => True, fun _ => True, fun _ => True⟩

/-- What is kept when events are noted and the drivers of a scope are
asked, as long as no file is opened or closed. While it holds, the paths
and descriptors of the scope lead to these drivers. -/
structure Calm (scope : Scope) (inv : NameSpace δ σ → Prop) : Prop where
  note (event : Event) : Keeps inv (note event)
  ask {α : Type} {driver : DriverId} {request : Request α} :
    scope.drivers driver → Passing request → Keeps inv (call driver request)
  route {path : String} : scope.paths path →
    ∀ {space : NameSpace δ σ} {mount rest}, inv space →
      space.mounts.find (Path.resolve space.directory path)
        = .ok (mount, rest) → scope.drivers mount.driver
  hold {descriptor : Nat} : scope.descriptors descriptor →
    ∀ {space : NameSpace δ σ} {file}, inv space →
      space.descriptors.get descriptor = .ok file →
      scope.drivers file.driver

section

variable {scope : Scope}

/-- What holds of no state in particular is no matter. -/
theorem Calm.fact (calm : Calm scope inv) (fact : Prop) :
    Calm scope fun space => fact ∧ inv space where
  note event := (keeps_fact fact _).and (calm.note event)
  ask allowed passing := (keeps_fact fact _).and (calm.ask allowed passing)
  route within _ _ _ known := calm.route within known.2
  hold within _ _ known := calm.hold within known.2

theorem keeps_lookup (calm : Calm scope inv) (path : String) :
    Keeps inv (lookup path :
      Action (NameSpace δ σ) (Mount DriverId × String)) := by
  refine keeps_bind (keeps_resolve path) ?_
  intro path
  refine keeps_bind keeps_get ?_
  intro space
  refine keeps_bind (keeps_ofExcept _) ?_
  rintro ⟨mount, rest⟩
  exact keeps_bind (calm.note _) fun _ => keeps_pure _

/-- A path of the scope leads to a driver of the scope. -/
theorem ensures_lookup (calm : Calm scope inv) {path : String}
    (within : scope.paths path) :
    Ensures inv (lookup path :
      Action (NameSpace δ σ) (Mount DriverId × String))
      (fun found space => scope.drivers found.1.driver ∧ inv space)
      (fun _ => inv) := by
  intro space start
  have after := keeps_lookup calm path space start
  rw [run_lookup] at after ⊢
  cases routes : space.mounts.find (Path.resolve space.directory path) with
  | error fault => exact start
  | ok answer =>
    obtain ⟨mount, rest⟩ := answer
    rw [routes] at after
    exact ⟨calm.route within start routes, after⟩

/-- And so does a descriptor. -/
theorem ensures_fileOf (calm : Calm scope inv) {descriptor : Nat}
    (within : scope.descriptors descriptor) :
    Ensures inv (fileOf descriptor :
      Action (NameSpace δ σ) (OpenFile DriverId))
      (fun file space => scope.drivers file.driver ∧ inv space)
      (fun _ => inv) := by
  intro space start
  show Meets _ _ ((Action.ofExcept _).run space)
  cases held : space.descriptors.get descriptor with
  | error fault => exact start
  | ok file => exact ⟨calm.hold within start held, start⟩

/-- What is asked of the volume that a path lies under. -/
theorem keeps_atVolume (calm : Calm scope inv) {path : String}
    (within : scope.paths path) {request : String → Request α}
    (passing : ∀ rest, Passing (request rest)) :
    Keeps inv (do
      let (mount, rest) ← lookup path
      call mount.driver (request rest) : Action (NameSpace δ σ) α) := by
  refine ensures_bind (ensures_lookup calm within) ?_
  rintro ⟨mount, rest⟩ space ⟨allowed, start⟩
  exact calm.ask allowed (passing rest) space start

theorem keeps_stat (calm : Calm scope inv) {path : String}
    (within : scope.paths path) :
    Keeps inv (stat path : Action (NameSpace δ σ) Stat) :=
  keeps_atVolume calm within fun _ => trivial

theorem keeps_requireDirectory {path : String}
    (tells : Keeps inv (stat path : Action (NameSpace δ σ) Stat)) :
    Keeps inv (requireDirectory path : Action (NameSpace δ σ) Unit) := by
  refine keeps_bind (keeps_attempt tells) ?_
  intro answer
  cases answer with
  | ok found =>
    exact keeps_ite (fun _ => keeps_pure _) (fun _ => keeps_refuse _)
  | error fault => exact keeps_refuse _

theorem keeps_requireParent {path : String}
    (tells : Keeps inv (stat (Path.parent path) :
      Action (NameSpace δ σ) Stat)) :
    Keeps inv (requireParent path : Action (NameSpace δ σ) Unit) :=
  keeps_ite (fun _ => keeps_pure _)
    (fun _ => keeps_requireDirectory tells)

/-- Nothing else than the working directory changes. -/
theorem Indifferent.change (same : Indifferent inv)
    (tells : ∀ path, Keeps inv (stat path : Action (NameSpace δ σ) Stat))
    (path : String) :
    Keeps inv (changeDirectory path : Action (NameSpace δ σ) Unit) := by
  refine keeps_bind (keeps_resolve path) fun path => ?_
  refine keeps_bind (keeps_requireDirectory (tells _)) fun _ => ?_
  exact keeps_modify fun space => same space _ ⟨rfl, rfl, rfl, rfl⟩

/-! ### Files and directories -/

/-- What is asked of the driver that has opened a file. -/
theorem keeps_ofFile (calm : Calm scope inv) {descriptor : Nat}
    (within : scope.descriptors descriptor) (request : FileId → Request α)
    (passing : ∀ file, Passing (request file)) :
    Keeps inv (do
      let file ← fileOf descriptor
      call file.driver (request file.file) : Action (NameSpace δ σ) α) := by
  refine ensures_bind (ensures_fileOf calm within) ?_
  rintro file space ⟨allowed, start⟩
  exact calm.ask allowed (passing file.file) space start

theorem keeps_receive (calm : Calm scope inv) {descriptor : Nat}
    (within : scope.descriptors descriptor) (length : Nat) :
    Keeps inv (receive descriptor length :
      Action (NameSpace δ σ) Bytes) :=
  keeps_ofFile calm within (.read · length none) fun _ => trivial

theorem keeps_read (calm : Calm scope inv) {descriptor : Nat}
    (within : scope.descriptors descriptor) (buffer : Bytes) :
    Keeps inv (read descriptor buffer :
      Action (NameSpace δ σ) Filled) := by
  refine keeps_bind (keeps_receive calm within _) ?_
  intro found
  exact keeps_pure _

theorem keeps_write (calm : Calm scope inv) {descriptor : Nat}
    (within : scope.descriptors descriptor) (buffer : Bytes) :
    Keeps inv (write descriptor buffer : Action (NameSpace δ σ) Nat) :=
  keeps_ofFile calm within (.write · buffer none) fun _ => trivial

theorem keeps_readWith (calm : Calm scope inv) {descriptor : Nat}
    (within : scope.descriptors descriptor) (buffer : Bytes)
    (offset length : Nat) (position : Option Nat) :
    Keeps inv (readWith descriptor buffer offset length position :
      Action (NameSpace δ σ) Filled) := by
  refine ensures_bind (ensures_fileOf calm within) ?_
  rintro file space ⟨allowed, start⟩
  refine keeps_bind (keeps_requireWindow _ _ _) ?_ space start
  intro _
  refine keeps_bind (calm.ask allowed ?_) fun found => keeps_pure _
  trivial

theorem keeps_writeWith (calm : Calm scope inv) {descriptor : Nat}
    (within : scope.descriptors descriptor) (buffer : Bytes)
    (offset length : Nat) (position : Option Nat) :
    Keeps inv (writeWith descriptor buffer offset length position :
      Action (NameSpace δ σ) Nat) := by
  refine ensures_bind (ensures_fileOf calm within) ?_
  rintro file space ⟨allowed, start⟩
  refine keeps_bind (keeps_requireWindow _ _ _) ?_ space start
  intro _
  exact calm.ask allowed trivial

/-- The target of a move is looked up, but not asked for. -/
theorem keeps_rename (calm : Calm scope inv) {source : String}
    (within : scope.paths source) (target : String) :
    Keeps inv (rename source target : Action (NameSpace δ σ) Unit) := by
  refine ensures_bind (ensures_lookup calm within) ?_
  rintro ⟨mount, rest⟩ space ⟨allowed, start⟩
  refine keeps_bind (keeps_lookup calm _) ?_ space start
  rintro ⟨other, otherRest⟩
  have asks : Keeps inv (call mount.driver (.rename rest otherRest)) :=
    calm.ask allowed trivial
  refine keeps_ite (fun _ => ?_) (fun _ => asks)
  exact keeps_bind (keeps_refuse _) fun _ => asks

theorem keeps_list (calm : Calm scope inv) {path : String}
    (within : scope.paths path) :
    Keeps inv (list path : Action (NameSpace δ σ) (List String)) := by
  refine ensures_bind (ensures_lookup calm within) ?_
  rintro ⟨mount, rest⟩ space ⟨allowed, start⟩
  have asks : Keeps inv (call mount.driver (.list rest)) :=
    calm.ask allowed trivial
  refine keeps_bind asks ?_ space start
  intro names
  refine keeps_bind (keeps_resolve _) ?_
  intro directory
  exact keeps_bind keeps_get fun space => keeps_pure _

theorem keeps_pathExists (calm : Calm scope inv) {path : String}
    (within : scope.paths path) :
    Keeps inv (pathExists path : Action (NameSpace δ σ) Bool) := by
  refine keeps_bind (keeps_attempt (keeps_stat calm within)) ?_
  intro answer
  cases answer with
  | ok _ | error _ => exact keeps_pure _

theorem keeps_remove (calm : Calm scope inv) {path : String}
    (within : scope.paths path) :
    Keeps inv (remove path : Action (NameSpace δ σ) Unit) := by
  refine keeps_bind (keeps_stat calm within) ?_
  intro found
  exact keeps_ite (fun _ => keeps_atVolume calm within fun _ => trivial)
    (fun _ => keeps_atVolume calm within fun _ => trivial)

/-! ### Whole files -/

theorem keeps_receiveAll (calm : Calm scope inv) {descriptor : Nat}
    (within : scope.descriptors descriptor) (length : Nat)
    (before : Bytes) :
    Keeps inv (receiveAll descriptor length before :
      Action (NameSpace δ σ) Bytes) := by
  fun_induction
    (receiveAll descriptor length before : Action (NameSpace δ σ) Bytes) with
  | case1 length before more ih =>
    refine keeps_bind (keeps_receive calm within _) ?_
    intro found
    split
    · next some => exact ih found some
    · exact keeps_pure _
  | case2 length before none => exact keeps_pure _

theorem keeps_receiveFile (calm : Calm scope inv) {descriptor : Nat}
    (within : scope.descriptors descriptor) {path : String}
    (withinPath : scope.paths path) :
    Keeps inv (receiveFile descriptor path :
      Action (NameSpace δ σ) Bytes) := by
  refine keeps_bind (keeps_stat calm withinPath) fun found => ?_
  exact keeps_bind (ensures_reserve inv _)
    fun _ => keeps_receiveAll calm within _ _

theorem keeps_sendAll (calm : Calm scope inv) {descriptor : Nat}
    (within : scope.descriptors descriptor) (data : Bytes) :
    Keeps inv (sendAll descriptor data :
      Action (NameSpace δ σ) Unit) := by
  fun_induction
    (sendAll descriptor data : Action (NameSpace δ σ) Unit) with
  | case1 data more _ ih =>
    refine keeps_bind (keeps_write calm within _) ?_
    intro count
    split
    · next some => exact ih count some
    · exact keeps_refuse _
  | case2 data none => exact keeps_pure _

end

/-- A file is closed after a transfer that is done, and after one that is
refused. -/
theorem ensures_closing {before : NameSpace δ σ → Prop}
    {moved done : α → NameSpace δ σ → Prop}
    {broken refused : Fault → NameSpace δ σ → Prop} {descriptor : Nat}
    {transfer : Action (NameSpace δ σ) α}
    (transfers : Ensures before transfer moved broken)
    (closes : ∀ value, Ensures (moved value) (close descriptor)
      (fun _ => done value) refused)
    (givesUp : ∀ fault, Ensures (broken fault) (close descriptor)
      (fun _ => refused fault) (fun _ => refused fault)) :
    Ensures before (closing descriptor transfer) done refused := by
  intro space known
  have meets := transfers.apply known
  rw [closing, Action.run_bind, Action.run_attempt]
  cases ending : transfer.run space with
  | done value between =>
    rw [ending] at meets
    have meets := (closes value).apply meets
    simp only [Action.run_bind, Action.run_attempt]
    cases last : (close descriptor).run between with
    | done _ after | refused _ after =>
      rw [last] at meets
      exact meets
    | stopped trap => trivial
  | refused fault between =>
    rw [ending] at meets
    have meets := (givesUp fault).apply meets
    simp only [Action.run_bind, Action.run_attempt]
    -- The first fault is told, whether the file can be closed or not.
    cases last : (close descriptor).run between with
    | done _ after | refused _ after =>
      rw [last] at meets
      exact meets
    | stopped trap => trivial
  | stopped trap => trivial

/-! ### Steady properties -/

/-- What is kept when events are noted, descriptors used and drivers asked
about files. -/
structure Steady (inv : NameSpace δ σ → Prop) : Prop where
  note (event : Event) : Keeps inv (note event)
  descriptors {α : Type} (action : Action (DescriptorTable DriverId) α) :
    Keeps inv (inDescriptors action)
  files {α : Type} (driver : DriverId) {request : Request α} :
    AboutFiles request → Keeps inv (call driver request)

theorem OnlyRoutes.steady (routes : OnlyRoutes inv) : Steady inv :=
  ⟨keeps_note routes, keeps_inDescriptors routes,
    fun _ _ _ => keeps_call routes _ _⟩

/-- Wherever paths and descriptors lead to, a steady property is kept. -/
theorem Steady.calm (steady : Steady inv) : Calm Scope.whole inv where
  note := steady.note
  ask _ passing := steady.files _ passing.aboutFiles
  route _ _ _ _ _ _ := trivial
  hold _ _ _ _ _ := trivial

theorem Steady.stat (steady : Steady inv) (path : String) :
    Keeps inv (stat path : Action (NameSpace δ σ) Stat) :=
  keeps_stat steady.calm trivial

theorem keeps_openFile (steady : Steady inv) (path mode : String)
    (permissions : UInt32) :
    Keeps inv (openFile path mode permissions :
      Action (NameSpace δ σ) Nat) := by
  refine keeps_bind (keeps_ofExcept _) ?_
  intro flags
  refine keeps_bind (keeps_lookup steady.calm _) ?_
  rintro ⟨mount, rest⟩
  refine keeps_bind (steady.files _ trivial) ?_
  intro file
  refine keeps_onRefusal (steady.descriptors _) ?_
  intro _
  refine keeps_bind (keeps_attempt (steady.files _ trivial)) ?_
  intro answer
  cases answer with
  | ok _ => exact keeps_pure _
  | error fault => exact steady.note _

theorem keeps_close (steady : Steady inv) (descriptor : Nat) :
    Keeps inv (close descriptor : Action (NameSpace δ σ) Unit) := by
  refine keeps_bind (steady.descriptors _) ?_
  intro file
  refine keeps_onRefusal (steady.files _ trivial) ?_
  intro fault
  exact steady.note _

theorem keeps_readWhole (steady : Steady inv) (path : String) :
    Keeps inv (readWhole path : Action (NameSpace δ σ) Bytes) := by
  refine keeps_bind (keeps_openFile steady _ _ _) ?_
  intro descriptor
  exact ensures_closing (keeps_receiveFile steady.calm trivial trivial)
    (fun _ => keeps_close steady descriptor)
    (fun _ => keeps_close steady descriptor)

theorem keeps_writeWhole (steady : Steady inv) (path : String)
    (data : Bytes) :
    Keeps inv (writeWhole path data : Action (NameSpace δ σ) Unit) := by
  refine keeps_bind (keeps_openFile steady _ _ _) ?_
  intro descriptor
  exact ensures_closing (keeps_sendAll steady.calm trivial data)
    (fun _ => keeps_close steady descriptor)
    (fun _ => keeps_close steady descriptor)

/-! ### Commands -/

/-- How a command opens a file. -/
structure Opening where
  path : String
  mode : String
  permissions : UInt32

/-- The file that a command opens, if it does. -/
def opening? : Command δ α → Option Opening
  | .openFile path mode permissions => some ⟨path, mode, permissions⟩
  | .openDefault path | .readWhole path =>
    some ⟨path, "r", defaultPermissions⟩
  | .writeWhole path _ => some ⟨path, "w", defaultPermissions⟩
  | _ => none

/-- The descriptor that a command closes, if it is given one to close. -/
def closing? : Command δ α → Option Nat
  | .close descriptor => some descriptor
  | _ => none

/-- Commands that do no more than ask the drivers of a scope, without
opening or closing a file. -/
def Asks (scope : Scope) : Command δ α → Prop
  | .lookup _ => True
  | .read descriptor _ | .write descriptor _ | .readWith descriptor _ _ _ _
  | .writeWith descriptor _ _ _ _ => scope.descriptors descriptor
  | .stat path | .unlink path | .makeDirectory path | .removeDirectory path
  | .remove path | .rename path _ | .list path | .pathExists path =>
    scope.paths path
  | _ => False

theorem keeps_run_of_asks {scope : Scope} (calm : Calm scope inv)
    {command : Command δ α} (asks : Asks scope command) :
    Keeps inv (run command : Action (NameSpace δ σ) α) := by
  cases command with
  | lookup => exact keeps_lookup calm _
  | read => exact keeps_read calm asks _
  | write => exact keeps_write calm asks _
  | readWith => exact keeps_readWith calm asks _ _ _ _
  | writeWith => exact keeps_writeWith calm asks _ _ _ _
  | stat | unlink | makeDirectory | removeDirectory =>
    exact keeps_atVolume calm asks fun _ => trivial
  | remove => exact keeps_remove calm asks
  | rename => exact keeps_rename calm asks _
  | list => exact keeps_list calm asks
  | pathExists => exact keeps_pathExists calm asks
  | _ => exact asks.elim

/-- A calm property is kept by every command if it is kept when files are
opened and closed, and by the six commands that do more. -/
theorem keeps_run_of_calm (calm : Calm Scope.whole inv)
    (onRegister : ∀ fsType fresh, Keeps inv (register fsType fresh))
    (onUnregister : ∀ fsType, Keeps inv (unregister fsType))
    (onFormat : ∀ device fsType, Keeps inv (format device fsType))
    (onMount : ∀ path device fsType autoFormat,
      Keeps inv (mount path device fsType autoFormat))
    (onUnmount : ∀ path, Keeps inv (unmount path))
    (onChange : ∀ path, Keeps inv (changeDirectory path))
    (command : Command δ α)
    (onOpen : ∀ opening, opening? command = some opening →
      Keeps inv (run command))
    (onClose : ∀ descriptor, closing? command = some descriptor →
      Keeps inv (close descriptor)) :
    Keeps inv (run command : Action (NameSpace δ σ) α) := by
  cases command with
  | register => exact onRegister _ _
  | unregister => exact onUnregister _
  | format => exact onFormat _ _
  | mount => exact onMount _ _ _ _
  | unmount => exact onUnmount _
  | changeDirectory => exact onChange _
  | openFile | openDefault | readWhole | writeWhole => exact onOpen _ rfl
  | close => exact onClose _ rfl
  | _ => exact keeps_run_of_asks calm trivial

/-- A steady property is kept when files are opened, too. -/
theorem keeps_run_of_opens (steady : Steady inv) {command : Command δ α}
    {opening : Opening} (is : opening? command = some opening) :
    Keeps inv (run command : Action (NameSpace δ σ) α) := by
  cases command with
  | openFile | openDefault => exact keeps_openFile steady _ _ _
  | readWhole => exact keeps_readWhole steady _
  | writeWhole => exact keeps_writeWhole steady _ _
  | _ => cases is

/-- A property of the routes is kept by every command if mounting,
unmounting and going to another directory keep it. -/
theorem keeps_run (routes : OnlyRoutes inv)
    (onMount : ∀ path device fsType autoFormat,
      Keeps inv (mount path device fsType autoFormat))
    (onUnmount : ∀ path, Keeps inv (unmount path))
    (onChange : ∀ path, Keeps inv (changeDirectory path))
    (command : Command δ α) :
    Keeps inv (run command : Action (NameSpace δ σ) α) :=
  keeps_run_of_calm routes.steady.calm
    (keeps_register (keeps_note routes)
      fun space _ => routes space _ rfl rfl)
    (keeps_unregister (keeps_note routes)
      fun space _ => routes space _ rfl rfl)
    (keeps_format routes) onMount onUnmount onChange command
    (fun _ => keeps_run_of_opens routes.steady)
    (fun descriptor _ => keeps_close routes.steady descriptor)

end MountSpace.Proofs.NameSpaces
