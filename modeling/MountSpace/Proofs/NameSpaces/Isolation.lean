import MountSpace.Device.RamDisk
import MountSpace.Proofs.NameSpaces.Idle
import MountSpace.Proofs.Routing.Lookup

/-!
# `MountSpace.Proofs.NameSpaces.Isolation`: one driver for each command

A command has one driver for its target (`target`): the one that its path
leads to, the one that has opened the file of its descriptor, the one that
it makes, or the one whose mount it takes out. It changes neither another
driver nor the device of another mount, as long as no two mounts share a
device (`isolation`).

The drivers that are asked are those of the target's scope. What has to be
known besides is which device they are on. A driver behind a mount is on a
device of its own, and so is a new one. The target of a descriptor can be
behind no mount, and its device behind another one by now. Such a driver is
idle (`Backed`).
-/

set_option autoImplicit false

namespace MountSpace.Proofs.NameSpaces

open Effects
open MountSpace.NameSpace
open Routing (Routed mem_of_find remove_eq_ok routed_of_reachable)
open Volumes (AboutFiles)

variable {δ σ α : Type}

/-! ### Targets -/

/-- The driver that a path leads to. -/
def route (space : NameSpace δ σ) (path : String) : Option DriverId :=
  (space.mounts.find (Path.resolve space.directory path)).toOption.map
    fun found => found.1.driver

/-- The driver that has opened the file of a descriptor. -/
def holder (space : NameSpace δ σ) (descriptor : Nat) : Option DriverId :=
  (space.descriptors.get descriptor).toOption.map OpenFile.driver

/-- The driver of the mount at exactly this path. -/
def mountedAt (space : NameSpace δ σ) (path : String) : Option DriverId :=
  (space.mounts.remove (Path.resolve space.directory path)).toOption.map
    fun found => found.1.driver

/-- The one driver that a command may change. To format or mount a device
is to make a driver for it, which gets the next number. -/
def target (space : NameSpace δ σ) : Command δ α → Option DriverId
  | .register .. | .unregister _ | .changeDirectory _ => none
  | .format .. | .mount .. => some space.world.drivers.length
  | .unmount path => mountedAt space path
  | .lookup path | .openFile path _ _ | .openDefault path | .stat path
  | .unlink path | .makeDirectory path | .removeDirectory path
  | .remove path | .rename path _ | .list path | .pathExists path
  | .readWhole path | .writeWhole path _ => route space path
  | .read descriptor _ | .write descriptor _ | .readWith descriptor _ _ _ _
  | .writeWith descriptor _ _ _ _ | .close descriptor =>
    holder space descriptor

/-- The device that a command makes a driver for. -/
def builtOn? : Command δ α → Option DeviceId
  | .format device _ | .mount _ device _ _ => some device
  | _ => none

/-! ### Devices -/

/-- The device that a driver works on. -/
def deviceOf (world : World δ σ) (driver : DriverId) : Option DeviceId :=
  world.drivers[driver]?.map Installed.device

/-- No two mounts are on the same device. -/
def Separate (space : NameSpace δ σ) : Prop :=
  (space.mounts.map fun mount => deviceOf space.world mount.driver).Nodup

/-- All drivers but the target are as they were, and so are the devices of
all mounts but the target's. -/
structure Beside (target : Option DriverId) (space : NameSpace δ σ)
    (world : World δ σ) : Prop where
  drivers {driver : DriverId} {installed : Installed δ} :
    space.world.drivers[driver]? = some installed →
    target ≠ some driver → world.drivers[driver]? = some installed
  devices {mount : Mount DriverId} {device : DeviceId} :
    mount ∈ space.mounts → target ≠ some mount.driver →
    deviceOf space.world mount.driver = some device →
    world.devices[device]? = space.world.devices[device]?

/-- All drivers and devices are as they were. -/
structure Unmoved (space state : NameSpace δ σ) : Prop where
  drivers : state.world.drivers = space.world.drivers
  devices : state.world.devices = space.world.devices

/-- The driver is not on the device of another one's mount. -/
def Clear (space : NameSpace δ σ) (driver : DriverId) (world : World δ σ) :
    Prop :=
  ∀ mount ∈ space.mounts, mount.driver ≠ driver →
    deviceOf space.world mount.driver ≠ deviceOf world driver

/-- The target may do what it likes: it is not on the device of another
mount. -/
structure Alone (space : NameSpace δ σ) (driver : DriverId)
    (state : NameSpace δ σ) : Prop where
  beside : Beside (some driver) space state.world
  clear : Clear space driver state.world

/-- What is known while the target is asked about files. In `focus` are the
descriptors that lead to the target. -/
structure Spares (idle : δ → Prop) (target : Option DriverId)
    (focus : Nat → Prop) (space state : NameSpace δ σ) : Prop where
  mounts : state.mounts = space.mounts
  directory : state.directory = space.directory
  beside : Beside target space state.world
  harmless {driver : DriverId} : target = some driver →
    Clear space driver state.world ∨ Serves idle state.world driver
  leads {descriptor : Nat} {opened : OpenFile DriverId} :
    focus descriptor → state.descriptors.get descriptor = .ok opened →
    target = some opened.driver

section

variable {idle : δ → Prop} {chosen : Option DriverId} {focus : Nat → Prop}
  {space state : NameSpace δ σ} {world : World δ σ}
  {driver other : DriverId} {site left : Site δ σ}

theorem deviceOf_putSite (found : world.site? driver = some site)
    (left : Site δ σ) (other : DriverId) :
    deviceOf (World.putSite driver left world) other
      = deviceOf world other := by
  obtain ⟨device, isThere, _⟩ := site?_eq_some_iff.mp found
  simp only [deviceOf, World.putSite, isThere]
  by_cases same : other = driver
  · subst same
    have inside := (List.getElem?_eq_some_iff.mp isThere).1
    rw [List.getElem?_set_self inside, isThere]
    rfl
  · rw [List.getElem?_set_ne (Ne.symm same)]

theorem beside_self (target : Option DriverId) (space : NameSpace δ σ) :
    Beside target space space.world :=
  ⟨fun found _ => found, fun _ _ _ => rfl⟩

theorem Unmoved.beside (unmoved : Unmoved space state) :
    Beside chosen space state.world where
  drivers found _ := by
    rw [unmoved.drivers]
    exact found
  devices _ _ _ := by rw [unmoved.devices]

theorem indifferent_unmoved : Indifferent (Unmoved space) :=
  fun _ _ alike unmoved => ⟨alike.drivers.trans unmoved.drivers,
    alike.devices.trans unmoved.devices⟩

theorem Beside.note (beside : Beside chosen space world)
    (events : List Event) : Beside chosen space { world with events } :=
  ⟨beside.drivers, beside.devices⟩

theorem Alone.note (alone : Alone space driver state)
    (events : List Event) :
    Alone space driver
      { state with world := { state.world with events } } :=
  ⟨alone.beside.note events, alone.clear⟩

/-- What a driver does concerns itself and its device. -/
theorem Beside.putSite (beside : Beside (some driver) space world)
    (clear : Clear space driver world)
    (found : world.site? driver = some site) (left : Site δ σ) :
    Beside (some driver) space (World.putSite driver left world) := by
  obtain ⟨number, isThere, _⟩ := site?_eq_some_iff.mp found
  have on : deviceOf world driver = some number := by
    rw [deviceOf, isThere]
    rfl
  constructor
  · intro other installed before different
    simp only [World.putSite, isThere]
    rw [List.getElem?_set_ne fun same => different (congrArg some same)]
    exact beside.drivers before different
  · intro mount device member different before
    simp only [World.putSite, isThere]
    -- A mount on the same device would be the target's own.
    have apart : number ≠ device := by
      rintro rfl
      refine clear mount member (fun same => ?_) (before.trans on.symm)
      exact different (congrArg some same.symm)
    rw [List.getElem?_set_ne apart]
    exact beside.devices member different before

theorem Clear.putSite (clear : Clear space driver world)
    (found : world.site? driver = some site) (left : Site δ σ) :
    Clear space driver (World.putSite driver left world) := by
  intro mount member different
  rw [deviceOf_putSite found]
  exact clear mount member different

theorem Alone.putSite (alone : Alone space driver state)
    (found : state.world.site? driver = some site) (left : Site δ σ) :
    Alone space driver
      { state with world := World.putSite driver left state.world } :=
  ⟨alone.beside.putSite alone.clear found left,
    alone.clear.putSite found left⟩

/-- A driver behind a mount is on a device of its own. -/
theorem clear_of_mounted (separate : Separate space)
    (member : driver ∈ space.mounts.map Mount.driver) :
    Clear space driver space.world := by
  obtain ⟨mount, isMount, rfl⟩ := List.mem_map.mp member
  intro other isOther different same
  have equal := List.inj_on_of_nodup_map separate isOther isMount same
  exact different (congrArg Mount.driver equal)

theorem route_eq_some {path : String} {mount : Mount DriverId}
    {rest : String} (found : space.mounts.find
      (Path.resolve space.directory path) = .ok (mount, rest)) :
    route space path = some mount.driver := by
  rw [route, found]
  rfl

theorem mem_of_route {path : String}
    (leads : route space path = some driver) :
    driver ∈ space.mounts.map Mount.driver := by
  rw [route] at leads
  cases found : space.mounts.find
      (Path.resolve space.directory path) with
  | error fault =>
    rw [found] at leads
    cases leads
  | ok answer =>
    rw [found] at leads
    cases leads
    exact List.mem_map_of_mem (mem_of_find found)

theorem holder_eq_some {descriptor : Nat} {opened : OpenFile DriverId}
    (held : space.descriptors.get descriptor = .ok opened) :
    holder space descriptor = some opened.driver := by
  rw [holder, held]
  rfl

/-- Whatever a path leads to is behind a mount. -/
theorem spares_route (separate : Separate space) (path : String) :
    Spares idle (route space path) (fun _ => False) space space where
  mounts := rfl
  directory := rfl
  beside := beside_self _ space
  harmless leads := .inl (clear_of_mounted separate (mem_of_route leads))
  leads absurd := absurd.elim

/-- What a descriptor leads to is behind a mount, or idle. -/
theorem spares_holder (separate : Separate space)
    (backed : Backed idle space) (descriptor : Nat) :
    Spares idle (holder space descriptor) (fun other => other = descriptor)
      space space where
  mounts := rfl
  directory := rfl
  beside := beside_self _ space
  harmless {driver} leads := by
    rw [holder] at leads
    cases held : space.descriptors.get descriptor with
    | error fault =>
      rw [held] at leads
      cases leads
    | ok opened =>
      rw [held] at leads
      cases leads
      exact (backed.backs held).imp (clear_of_mounted separate) id
  leads same held := same ▸ holder_eq_some held

theorem Spares.note (spares : Spares idle chosen focus space state)
    (events : List Event) :
    Spares idle chosen focus space
      { state with world := { state.world with events } } :=
  ⟨spares.mounts, spares.directory, spares.beside.note events,
    spares.harmless, spares.leads⟩

/-- Other descriptors may be of interest, as long as they lead to the
target. -/
theorem Spares.descriptors (spares : Spares idle chosen focus space state)
    {descriptors : DescriptorTable DriverId} {more : Nat → Prop}
    (leads : ∀ {descriptor opened}, more descriptor →
      descriptors.get descriptor = .ok opened →
      chosen = some opened.driver) :
    Spares idle chosen more space { state with descriptors } :=
  ⟨spares.mounts, spares.directory, spares.beside, spares.harmless, leads⟩

theorem Spares.unfocused (spares : Spares idle chosen focus space state)
    (descriptors : DescriptorTable DriverId) :
    Spares idle chosen (fun _ => False) space { state with descriptors } :=
  spares.descriptors fun none _ => none.elim

/-! ### Requests -/

variable [Driver δ σ]

/-- The target can be asked about files. -/
theorem keeps_call_spares (retiring : Retiring σ idle)
    (is : chosen = some driver) {request : Request α}
    (files : AboutFiles request) :
    Keeps (Spares idle chosen focus space) (call driver request) := by
  refine ensures_call (fun _ spares _ => spares) ?_
  intro state site spares found
  obtain clear | serves := spares.harmless is
  -- A driver with a device of its own may change both.
  · have step (left : Site δ σ) : Spares idle chosen focus space
        { state with
          world := World.putSite driver left state.world } := by
      have still := clear.putSite found left
      refine ⟨spares.mounts, spares.directory, ?_, fun {other} same => ?_,
        spares.leads⟩
      · subst is
        exact spares.beside.putSite clear found left
      · cases is.symm.trans same
        exact .inl still
    exact meets_of_forall _ (fun _ => step) (fun _ => step)
  -- An idle driver leaves the world as it was.
  · refine ((retiring.still files (serves.of_site? found)).apply rfl).imp
      ?_ ?_
    · rintro _ _ rfl
      rw [putSite_self found]
      exact spares
    · rintro _ _ rfl
      rw [putSite_self found]
      exact spares

/-- The target, with the paths and descriptors that lead to it. -/
def scopeOf (space : NameSpace δ σ) (chosen : Option DriverId)
    (focus : Nat → Prop) : Scope where
  drivers driver := chosen = some driver
  paths path := route space path = chosen
  descriptors := focus

theorem calm_spares (retiring : Retiring σ idle) :
    Calm (scopeOf space chosen focus)
      (Spares idle chosen focus space) where
  note _ := fun _ spares => spares.note _
  ask is passing := keeps_call_spares retiring is passing.aboutFiles
  route := by
    intro path within state mount rest spares found
    rw [spares.mounts, spares.directory] at found
    exact within.symm.trans (route_eq_some found)
  hold within _ _ spares held := spares.leads within held

/-! ### Opening and closing -/

theorem ensures_begin_spares (retiring : Retiring σ idle) {path : String}
    (leads : route space path = chosen) (mode : String)
    (permissions : UInt32) :
    Ensures (Spares idle chosen focus space) (begin path mode permissions)
      (fun opened state => chosen = some opened.driver
        ∧ Spares idle chosen focus space state)
      (fun _ => Spares idle chosen focus space) := by
  have calm : Calm (scopeOf space chosen focus)
      (Spares idle chosen focus space) := calm_spares retiring
  refine ensures_bind (keeps_ofExcept _) fun flags => ?_
  refine ensures_bind (ensures_lookup calm leads) ?_
  rintro ⟨mount, rest⟩ state ⟨is, spares⟩
  have asks : Keeps (Spares idle chosen focus space)
      (call mount.driver (.openFile rest flags permissions)) :=
    keeps_call_spares retiring is trivial
  refine ensures_bind asks (fun file => ?_) state spares
  exact fun _ spares => ⟨is, spares⟩

theorem ensures_drop_spares (retiring : Retiring σ idle)
    (opened : OpenFile DriverId) :
    Ensures
      (fun state => chosen = some opened.driver
        ∧ Spares idle chosen focus space state)
      (call opened.driver (.close opened.file))
      (fun _ => Spares idle chosen focus space)
      (fun _ => Spares idle chosen focus space) := by
  rintro state ⟨is, spares⟩
  have asks : Keeps (Spares idle chosen focus space)
      (call opened.driver (.close opened.file)) :=
    keeps_call_spares retiring is trivial
  exact asks.apply spares

theorem ensures_settle_spares (retiring : Retiring σ idle)
    (opened : OpenFile DriverId) :
    Ensures
      (fun state => chosen = some opened.driver
        ∧ Spares idle chosen (fun _ => False) space state)
      (settle opened)
      (fun descriptor =>
        Spares idle chosen (fun other => other = descriptor) space)
      (fun _ => Spares idle chosen (fun _ => False) space) := by
  refine ensures_settle_of ?_ ?_ fun _ _ spares => spares.note _
  · refine ensures_within fun state ⟨is, spares⟩ => ?_
    refine (meets_alloc state.descriptors opened).imp ?_ ?_
    · intro descriptor after adds
      refine spares.descriptors fun {other file} same held => ?_
      rw [adds.get, if_pos same] at held
      cases held
      exact is
    · exact fun fault after _ => ⟨is, spares.unfocused after⟩
  · exact ensures_drop_spares retiring opened

theorem ensures_close_spares (retiring : Retiring σ idle)
    {descriptor : Nat} (within : focus descriptor) :
    Ensures (Spares idle chosen focus space) (close descriptor)
      (fun _ => Spares idle chosen (fun _ => False) space)
      (fun _ => Spares idle chosen (fun _ => False) space) := by
  have frees : Ensures (Spares idle chosen focus space)
      (inDescriptors (DescriptorTable.close descriptor))
      (fun opened state => chosen = some opened.driver
        ∧ Spares idle chosen (fun _ => False) space state)
      (fun _ => Spares idle chosen (fun _ => False) space) := by
    refine ensures_within fun state spares => ?_
    refine (meets_close state.descriptors descriptor).imp ?_ ?_
    · rintro opened after ⟨held, _⟩
      exact ⟨spares.leads within held, spares.unfocused after⟩
    · exact fun fault after _ => spares.unfocused after
  exact ensures_close_of frees (ensures_drop_spares retiring)
    fun _ _ spares => spares.note _

/-! ### Mounting and unmounting -/

/-- What a path names is told without a change. -/
theorem keeps_stat_unmoved (retiring : Retiring σ idle) (path : String) :
    Keeps (Unmoved space) (stat path) := by
  refine ensures_bind (ensures_lookup_mounted indifferent_unmoved.note
    path) ?_
  rintro ⟨mount, rest⟩
  refine ensures_call (fun _ known _ => known.2) ?_
  intro state site ⟨_, unmoved⟩ found
  refine ((retiring.stat rest site).apply rfl).imp ?_ ?_
  · rintro _ _ rfl
    rw [putSite_self found]
    exact unmoved
  · rintro _ _ rfl
    rw [putSite_self found]
    exact unmoved

/-- A target that is behind no mount, or no other one, can be asked
anything. -/
theorem keeps_call_alone (driver : DriverId) (request : Request α) :
    Keeps (Alone space driver) (call driver request) := by
  refine ensures_call (fun _ alone _ => alone) ?_
  intro state site alone found
  exact meets_of_forall _ (fun _ left => alone.putSite found left)
    (fun _ left => alone.putSite found left)

omit [Driver δ σ] in
/-- A new driver gets the next number. -/
theorem ensures_build_alone (fsType : String) {device : DeviceId}
    (free : ∀ mount ∈ space.mounts,
      deviceOf space.world mount.driver ≠ some device) :
    Ensures (Unmoved space) (build fsType device)
      (fun driver state => driver = space.world.drivers.length
        ∧ Alone space driver state)
      (fun _ => Unmoved space) := by
  refine ensures_bind keeps_get fun _ => ?_
  refine ensures_bind (keeps_ofExcept _) fun fresh => ?_
  refine ensures_within fun state unmoved => ?_
  refine ⟨congrArg List.length unmoved.drivers,
    ⟨fun found _ => ?_, fun _ _ _ => ?_⟩, ?_⟩
  · show (state.world.drivers ++ [_])[_]? = _
    rw [unmoved.drivers,
      List.getElem?_append_left (List.getElem?_eq_some_iff.mp found).1]
    exact found
  · show state.world.devices[_]? = _
    rw [unmoved.devices]
  -- The new driver is on the device that was asked for.
  · intro mount member _ same
    have on : deviceOf { state.world with
        drivers := state.world.drivers ++ [⟨fresh, device⟩] }
        state.world.drivers.length = some device := by
      simp [deviceOf]
    exact free mount member (same.trans on)

/-- A device that is behind no mount can be mounted or made empty. -/
theorem mounting_alone {device : DeviceId}
    (free : ∀ mount ∈ space.mounts,
      deviceOf space.world mount.driver ≠ some device) :
    Mounting device (Unmoved space)
      (fun driver state => driver = space.world.drivers.length
        ∧ Alone space driver state)
      (fun driver state => driver = space.world.drivers.length
        ∧ Alone space driver state)
      (fun state =>
        Beside (some space.world.drivers.length) space state.world) where
  early unmoved := unmoved.beside
  given known := known.1 ▸ known.2.beside
  build fsType := ensures_build_alone fsType free
  noteAside driver event := fun _ known => ⟨known.1, known.2.note _⟩
  format driver := by
    rintro state ⟨is, alone⟩
    exact ((keeps_call_alone driver .format).apply alone).imp
      (fun _ _ alone => ⟨is, alone⟩) (fun _ _ alone => ⟨is, alone⟩)
  mount driver := by
    rintro state ⟨is, alone⟩
    exact ((keeps_call_alone driver .mount).apply alone).imp
      (fun _ _ alone => ⟨is, alone⟩) (fun _ _ alone => ⟨is, alone⟩)
  enter path fsType driver := by
    rintro state ⟨rfl, alone⟩
    refine ((ensures_enter_perm _ state).apply rfl).imp ?_ ?_
    · rintro _ _ ⟨mounts, _, rfl⟩
      exact alone.beside
    · rintro _ _ rfl
      exact alone.beside
  noteAfter event := fun _ beside => beside.note _

/-- And so can a driver whose mount has been taken out be unmounted. -/
theorem unmounting_alone (separate : Separate space) (path : String) :
    Unmounting
      (fun resolved state => resolved = Path.resolve space.directory path
        ∧ state = space)
      (fun driver state => mountedAt space path = some driver
        ∧ Alone space driver state)
      (fun state => Beside (mountedAt space path) space state.world) where
  withdraw resolved := by
    rintro state ⟨rfl, rfl⟩
    rw [run_withdraw]
    cases removed : state.mounts.remove
        (Path.resolve state.directory path) with
    | error fault => exact beside_self _ state
    | ok answer =>
      obtain ⟨mount, mounts⟩ := answer
      obtain ⟨_, before, later, split, _⟩ := remove_eq_ok removed
      have member : mount ∈ state.mounts := by
        rw [split]
        exact List.mem_append_right _ List.mem_cons_self
      have leads : mountedAt state path = some mount.driver := by
        rw [mountedAt, removed]
        rfl
      exact ⟨leads, beside_self _ state,
        clear_of_mounted separate (List.mem_map_of_mem member)⟩
  noteRetired driver event := fun _ known => ⟨known.1, known.2.note _⟩
  unmount driver := by
    rintro state ⟨is, alone⟩
    rw [is]
    exact ((keeps_call_alone driver .unmount).apply alone).imp
      (fun _ _ alone => alone.beside) (fun _ _ alone => alone.beside)
  noteAfter event := fun _ beside => beside.note _

/-! ### Commands -/

/-- A command that only asks leaves all but its target alone. -/
theorem ensures_run_of_asks (retiring : Retiring σ idle)
    {command : Command δ α} (start : Spares idle chosen focus space space)
    (asks : Asks (scopeOf space chosen focus) command) :
    Ensures (fun state => state = space) (run command)
      (fun _ state => Beside chosen space state.world)
      (fun _ state => Beside chosen space state.world) :=
  (keeps_run_of_asks (calm_spares retiring) asks).imp
    (fun _ same => same ▸ start) (fun _ _ spares => spares.beside)
    (fun _ _ spares => spares.beside)

omit [Driver δ σ] in
theorem target_of_opening {command : Command δ α} {opening : Opening}
    (is : opening? command = some opening) :
    target space command = route space opening.path := by
  cases command with
  | openFile | openDefault | readWhole | writeWhole =>
    cases is
    rfl
  | _ => cases is

/-- And so does one that opens a file. -/
theorem ensures_run_of_opens (retiring : Retiring σ idle)
    (separate : Separate space) {command : Command δ α} {opening : Opening}
    (is : opening? command = some opening) :
    Ensures (fun state => state = space) (run command)
      (fun _ state => Beside (route space opening.path) space state.world)
      (fun _ state =>
        Beside (route space opening.path) space state.world) := by
  have opens : Ensures
      (Spares idle (route space opening.path) (fun _ => False) space)
      (openFile opening.path opening.mode opening.permissions)
      (fun descriptor => Spares idle (route space opening.path)
        (fun other => other = descriptor) space)
      (fun _ => Spares idle (route space opening.path) (fun _ => False)
        space) := by
    rw [openFile_eq]
    exact ensures_bind (ensures_begin_spares retiring rfl _ _)
      (ensures_settle_spares retiring)
  have runs := ensures_run_of_opening opens
    (fun _ => calm_spares retiring) (fun _ => rfl) (fun _ => rfl)
    (fun _ _ spares => spares.unfocused _)
    (fun _ => ensures_close_spares retiring rfl) is
  refine runs.imp ?_ (fun _ _ spares => spares.beside)
    (fun _ _ spares => spares.beside)
  rintro _ rfl
  exact spares_route separate opening.path

theorem ensures_close_beside (retiring : Retiring σ idle)
    (separate : Separate space) (backed : Backed idle space)
    (descriptor : Nat) :
    Ensures (fun state => state = space) (close descriptor)
      (fun _ state => Beside (holder space descriptor) space state.world)
      (fun _ state => Beside (holder space descriptor) space state.world) := by
  have closes : Ensures (Spares idle (holder space descriptor)
      (fun other => other = descriptor) space) (close descriptor)
      (fun _ => Spares idle (holder space descriptor) (fun _ => False) space)
      (fun _ => Spares idle (holder space descriptor) (fun _ => False)
        space) := ensures_close_spares retiring rfl
  refine closes.imp ?_ (fun _ _ spares => spares.beside)
    (fun _ _ spares => spares.beside)
  rintro _ rfl
  exact spares_holder separate backed descriptor

/-- Every command leaves all but its target alone. -/
theorem ensures_run_beside (retiring : Retiring σ idle)
    (separate : Separate space) (backed : Backed idle space)
    (command : Command δ α)
    (free : ∀ device, builtOn? command = some device →
      ∀ mount ∈ space.mounts,
        deviceOf space.world mount.driver ≠ some device) :
    Ensures (fun state => state = space) (run command)
      (fun _ state => Beside (target space command) space state.world)
      (fun _ state => Beside (target space command) space state.world) := by
  have unmoved : ∀ state : NameSpace δ σ, state = space →
      Unmoved space state := by
    rintro _ rfl
    exact ⟨rfl, rfl⟩
  -- Commands that change neither drivers nor devices.
  have still (keeps : Keeps (Unmoved space) (run command)) :
      Ensures (fun state => state = space) (run command)
        (fun _ state => Beside (target space command) space state.world)
        (fun _ state => Beside (target space command) space state.world) :=
    keeps.imp unmoved (fun _ _ unmoved => unmoved.beside)
      (fun _ _ unmoved => unmoved.beside)
  cases is : opening? command with
  | some opening =>
    rw [target_of_opening is]
    exact ensures_run_of_opens retiring separate is
  | none =>
    cases command with
    | openFile | openDefault | readWhole | writeWhole => cases is
    | register => exact still (indifferent_unmoved.register _ _)
    | unregister => exact still (indifferent_unmoved.unregister _)
    | changeDirectory =>
      exact still (indifferent_unmoved.change (keeps_stat_unmoved retiring) _)
    | format device fsType =>
      exact (ensures_format (mounting_alone (free device rfl)) fsType).imp
        unmoved (fun _ _ beside => beside) (fun _ _ beside => beside)
    | mount path device fsType autoFormat =>
      exact (ensures_mount (mounting_alone (free device rfl))
        (fun _ => keeps_requireParent (keeps_stat_unmoved retiring _)) path
        fsType autoFormat).imp unmoved (fun _ _ beside => beside)
        (fun _ _ beside => beside)
    | unmount path =>
      refine ensures_unmount (unmounting_alone separate path) ?_
      rintro _ rfl
      exact ⟨rfl, rfl⟩
    | close descriptor =>
      exact ensures_close_beside retiring separate backed descriptor
    | read descriptor | write descriptor | readWith descriptor
    | writeWith descriptor =>
      exact ensures_run_of_asks retiring
        (spares_holder separate backed descriptor) rfl
    | lookup path =>
      exact ensures_run_of_asks retiring (spares_route separate path) trivial
    | stat path | unlink path | makeDirectory path | removeDirectory path
    | remove path | rename path | list path | pathExists path =>
      exact ensures_run_of_asks retiring (spares_route separate path) rfl

/-- The target is all that has changed: other drivers are as they were, with
all that they hold, and so are the devices of other mounts. -/
structure Isolated (target : Option DriverId) (space after : NameSpace δ σ) :
    Prop where
  drivers {driver : DriverId} {state : δ} : target ≠ some driver →
    space.world.driver? driver = some state →
    after.world.driver? driver = some state
  mounts {mount : Mount DriverId} : mount ∈ space.mounts →
    target ≠ some mount.driver → ∃ site events,
      space.world.site? mount.driver = some site
        ∧ after.world.site? mount.driver
          = some ⟨site.driver, ⟨site.medium.device, events⟩⟩

omit [Driver δ σ] in
theorem Beside.isolated (beside : Beside chosen space state.world)
    (serving : Serving (fun _ => True) space) :
    Isolated chosen space state where
  drivers different known := by
    obtain ⟨installed, found, rfl⟩ := Option.map_eq_some_iff.mp known
    rw [World.driver?, beside.drivers found different]
    rfl
  mounts {mount} member different := by
    obtain ⟨site, found, _⟩ := (serving.serves mount member).site?
    obtain ⟨number, isThere, device, _⟩ := site?_eq_some_iff.mp found
    have on : deviceOf space.world mount.driver = some number := by
      rw [deviceOf, isThere]
      rfl
    refine ⟨site, state.world.events, found, site?_eq_some_iff.mpr
      ⟨number, beside.drivers isThere different, ?_, rfl⟩⟩
    rw [beside.devices member different on]
    exact device

/-- A move to another mount is refused before any driver is asked. -/
theorem run_rename_apart {source goal rest otherRest : String}
    {mount other : Mount DriverId}
    (found : space.mounts.find (Path.resolve space.directory source)
      = .ok (mount, rest))
    (foundOther : space.mounts.find (Path.resolve space.directory goal)
      = .ok (other, otherRest))
    (different : mount.path ≠ other.path) :
    ∃ events, (rename source goal).run space = .refused .crossDevice
      { space with world := { space.world with events } } := by
  simp only [rename, Action.run_bind, run_lookup, run_note, Action.run_pure,
    found, foundOther, if_pos different, Action.run_refuse]
  exact ⟨_, rfl⟩

end

/-! ### Volumes and scratch volumes -/

/-- In a name space in use in which no two mounts share a device, a command
changes its target and nothing else, and a move from one mount to another
is refused and changes nothing at all. A device that is formatted or
mounted must not be behind a mount already. -/
theorem isolation [BlockDevice σ]
    {others : World Backend σ → World Backend σ → Prop}
    (calm : ∀ world later, others world later → Extends world later)
    {space : NameSpace Backend σ} (reachable : Reachable others space)
    (separate : Separate space) :
    (∀ {α : Type} (command : Command Backend α)
      (after : NameSpace Backend σ),
      (∀ device, builtOn? command = some device → ∀ mount ∈ space.mounts,
        deviceOf space.world mount.driver ≠ some device) →
      ((run command).run space).after? = some after →
      Isolated (target space command) space after)
    ∧ ∀ source goal mount other rest otherRest,
      space.mounts.find (Path.resolve space.directory source)
        = .ok (mount, rest) →
      space.mounts.find (Path.resolve space.directory goal)
        = .ok (other, otherRest) →
      mount ≠ other →
      ∃ events, (rename source goal).run space = .refused .crossDevice
        { space with world := { space.world with events } } := by
  have backed := backed_of_reachable retiring_idle calm reachable
  have ordered := (routed_of_reachable reachable).ordered
  constructor
  · intro α command after free left
    have beside : Beside (target space command) space after.world :=
      (ensures_run_beside retiring_idle separate backed command
        free).of_after? rfl left
    exact beside.isolated backed.serving
  -- Two mounts at one path would be the same one.
  · intro source goal mount other rest otherRest found foundOther different
    refine run_rename_apart found foundOther fun same => different ?_
    exact List.inj_on_of_nodup_map ordered.distinct (mem_of_find found)
      (mem_of_find foundOther) same

/-- The commands that mount a second volume in the one at the root. -/
def twoVolumes : List (Command Backend Unit) :=
  rootVolume ++ [.makeDirectory "/m", .mount "/m" 1 "blockfs" true]

/-- A name space in use, with two volumes on two devices. -/
def bothMounted : Option (NameSpace Backend RamDisk) :=
  afterAll twoVolumes
    { (NameSpace.empty 16 : NameSpace Backend RamDisk) with
      world := ⟨[⟨96, 32, ∅⟩, ⟨96, 32, ∅⟩], [], []⟩ }

/-- The command that writes a file to the second volume. -/
def writeSecond : Command Backend Unit := .writeWhole "/m/f" [1]

/-- Where volumes are mounted, and the device and the tree of each. -/
structure Layout where
  mounts : List (Mount DriverId)
  directory : String
  devices : List (Option DeviceId)
  trees : List (Option Tree)
  deriving DecidableEq

def layoutOf (space : NameSpace Backend RamDisk) : Layout where
  mounts := space.mounts
  directory := space.directory
  devices := space.mounts.map fun mount => deviceOf space.world mount.driver
  trees := trees space

/-- Two volumes on two devices, with this tree in the second one. -/
def twoTrees (second : Tree) : Layout where
  mounts := [⟨"/m", "blockfs", 1⟩, ⟨"/", "blockfs", 0⟩]
  directory := "/"
  devices := [some 1, some 0]
  trees := [some second, some (.directory [("m", .directory [])])]

theorem separate_of_layoutOf {space : NameSpace Backend RamDisk}
    {second : Tree} (layout : layoutOf space = twoTrees second) :
    Separate space := by
  have devices := congrArg Layout.devices layout
  have apart : (twoTrees second).devices.Nodup := by
    show [some 1, some 0].Nodup
    decide
  exact (congrArg List.Nodup devices).mpr apart

/-- The second volume gets a file, and the one at the root stays as it was.
No file is moved from one to the other. -/
theorem isolation_sample :
    ∃ space after : NameSpace Backend RamDisk,
      Reachable Extends space ∧ Separate space
      ∧ ((run writeSecond).run space).after? = some after
      ∧ trees space = [some (.directory []),
        some (.directory [("m", .directory [])])]
      ∧ trees after = [some (.directory [("f", .file [1])]),
        some (.directory [("m", .directory [])])]
      ∧ Isolated (target space writeSecond) space after
      ∧ ∃ events, (rename "/m/f" "/f").run after = .refused .crossDevice
        { after with world := { after.world with events } } := by
  have shape : bothMounted.map (fun space => (layoutOf space,
      ((run writeSecond).run space).after?.map layoutOf))
      = some (twoTrees (.directory []),
        some (twoTrees (.directory [("f", .file [1])]))) := by
    decide +kernel
  obtain ⟨space, mounted, tells⟩ := Option.map_eq_some_iff.mp shape
  obtain ⟨before, tells⟩ := Prod.mk.inj tells
  obtain ⟨after, left, later⟩ := Option.map_eq_some_iff.mp tells
  have grown : Extends World.empty
      (⟨[⟨96, 32, ∅⟩, ⟨96, 32, ∅⟩], [], []⟩ : World Backend RamDisk) :=
    ⟨Nat.zero_le _, List.nil_prefix⟩
  have reachable : Reachable Extends space :=
    ((Reachable.empty 16).outside _ grown).afterAll mounted
  have separate := separate_of_layoutOf before
  have calm : ∀ world later : World Backend RamDisk,
      Extends world later → Extends world later := fun _ _ grown => grown
  -- What is known of the layouts is enough for both parts.
  have isolated := (isolation calm reachable separate).1 writeSecond after
    (fun device none => by cases none) left
  have mounts := congrArg Layout.mounts later
  have directory := congrArg Layout.directory later
  simp only [layoutOf, twoTrees] at mounts directory
  have found : after.mounts.find (Path.resolve after.directory "/m/f")
      = .ok (⟨"/m", "blockfs", 1⟩, "/f") := by
    rw [mounts, directory]
    decide
  have foundOther : after.mounts.find (Path.resolve after.directory "/f")
      = .ok (⟨"/", "blockfs", 0⟩, "/f") := by
    rw [mounts, directory]
    decide
  have refused := (isolation calm (reachable.command writeSecond left)
    (separate_of_layoutOf later)).2 "/m/f" "/f" _ _ _ _ found foundOther
    (by decide)
  exact ⟨space, after, reachable, separate, left,
    congrArg Layout.trees before, congrArg Layout.trees later, isolated,
    refused⟩

end MountSpace.Proofs.NameSpaces
