import MountSpace.Proofs.NameSpaces.Mounting
import MountSpace.Proofs.NameSpaces.Reachable

/-!
# `MountSpace.Proofs.NameSpaces.Serving`: drivers behind mounts

A driver is put into the table of mounts when it has been mounted, and
leaves it before it is unmounted. No two mounts have the same driver, so
what holds of every driver that has just been mounted, and is kept by
requests about files, holds of every driver behind a mount.

* `Lasting`: properties of drivers for which that is so.
* `Serving`: all drivers behind mounts have the property, and are there
  with their devices.
* `serving_of_reachable`: that holds of every name space in use, as long
  as nobody else takes drivers away or changes them.
-/

set_option autoImplicit false

namespace MountSpace.Proofs.NameSpaces

open Effects
open MountSpace.NameSpace
open Volumes (AboutFiles)

variable {δ σ α : Type}

/-! ### Drivers in a world -/

/-- A driver is there with its device, and has a property. -/
def Serves (good : δ → Prop) (world : World δ σ) (driver : DriverId) :
    Prop :=
  ∃ installed, world.drivers[driver]? = some installed
    ∧ installed.device < world.devices.length ∧ good installed.driver

/-- The later world has all that the earlier one has, drivers as they
were. -/
structure Extends (world later : World δ σ) : Prop where
  devices : world.devices.length ≤ later.devices.length
  drivers : world.drivers <+: later.drivers

section

variable {good : δ → Prop} {world later : World δ σ}
  {driver other : DriverId} {site left : Site δ σ}

theorem site?_eq_some_iff :
    world.site? driver = some site
      ↔ ∃ device, world.drivers[driver]? = some ⟨site.driver, device⟩
        ∧ world.devices[device]? = some site.medium.device
        ∧ world.events = site.medium.events := by
  obtain ⟨state, device, events⟩ := site
  simp only [World.site?, Option.bind_eq_bind, Option.bind_eq_some_iff,
    Option.pure_def, Option.some.injEq, Site.mk.injEq, Medium.mk.injEq]
  constructor
  · rintro ⟨⟨_, number⟩, found, _, there, rfl, rfl, rfl⟩
    exact ⟨number, found, there, rfl⟩
  · rintro ⟨number, found, there, rfl⟩
    exact ⟨⟨state, number⟩, found, device, there, rfl, rfl, rfl⟩

/-- A driver that serves finds itself with its device. -/
theorem Serves.site? (serves : Serves good world driver) :
    ∃ site, world.site? driver = some site ∧ good site.driver := by
  obtain ⟨⟨state, number⟩, found, there, holds⟩ := serves
  refine ⟨⟨state, ⟨world.devices[number], world.events⟩⟩, ?_, holds⟩
  exact site?_eq_some_iff.mpr
    ⟨number, found, List.getElem?_eq_getElem there, rfl⟩

theorem Serves.of_site? (serves : Serves good world driver)
    (found : world.site? driver = some site) : good site.driver := by
  obtain ⟨other, same, holds⟩ := serves.site?
  cases found.symm.trans same
  exact holds

theorem Serves.extends (serves : Serves good world driver)
    (grown : Extends world later) : Serves good later driver := by
  obtain ⟨installed, found, there, holds⟩ := serves
  obtain ⟨more, same⟩ := grown.drivers
  refine ⟨installed, ?_, Nat.lt_of_lt_of_le there grown.devices, holds⟩
  rw [← same, List.getElem?_append_left
    (List.getElem?_eq_some_iff.mp found).1]
  exact found

/-- A driver that was there is as it was. -/
theorem Extends.driver?_eq (grown : Extends world later)
    (isThere : (world.driver? driver).isSome) :
    later.driver? driver = world.driver? driver := by
  rw [World.driver?, Option.isSome_map] at isThere
  obtain ⟨installed, found⟩ := Option.isSome_iff_exists.mp isThere
  obtain ⟨more, same⟩ := grown.drivers
  rw [World.driver?, World.driver?, ← same, List.getElem?_append_left
    (List.getElem?_eq_some_iff.mp found).1]

/-- What a driver has left is what it is from now on. -/
theorem serves_putSite (found : world.site? driver = some site)
    (holds : good left.driver) :
    Serves good (World.putSite driver left world) driver := by
  obtain ⟨number, isThere, device, _⟩ := site?_eq_some_iff.mp found
  have inside : driver < world.drivers.length :=
    (List.getElem?_eq_some_iff.mp isThere).1
  have there : number < world.devices.length :=
    (List.getElem?_eq_some_iff.mp device).1
  simp only [Serves, World.putSite, isThere, List.length_set]
  exact ⟨⟨left.driver, number⟩, List.getElem?_set_self inside, there, holds⟩

/-- Other drivers stay as they are. -/
theorem Serves.putSite (serves : Serves good world other)
    (different : other ≠ driver) (left : Site δ σ) :
    Serves good (World.putSite driver left world) other := by
  obtain ⟨installed, found, there, holds⟩ := serves
  refine ⟨installed, ?_, ?_, holds⟩
  · rw [World.putSite]
    split
    · exact found
    · rw [List.getElem?_set_ne (Ne.symm different)]
      exact found
  · rw [World.putSite]
    split
    · exact there
    · rw [List.length_set]
      exact there

theorem length_putSite (left : Site δ σ) (world : World δ σ) :
    (World.putSite driver left world).drivers.length
      = world.drivers.length := by
  rw [World.putSite]
  split
  · rfl
  · exact List.length_set

theorem driver?_putSite_of_ne (different : other ≠ driver)
    (left : Site δ σ) (world : World δ σ) :
    (World.putSite driver left world).driver? other
      = world.driver? other := by
  rw [World.putSite]
  split
  · rfl
  · rw [World.driver?, List.getElem?_set_ne (Ne.symm different)]
    rfl

/-- A driver that serves is in the state that is asked for. -/
theorem Serves.driver?_eq {state : δ}
    (serves : Serves (· = state) world driver) :
    world.driver? driver = some state := by
  obtain ⟨installed, found, _, rfl⟩ := serves
  rw [World.driver?, found]
  rfl

theorem driver?_putSite_self (found : world.site? driver = some site)
    (left : Site δ σ) :
    (World.putSite driver left world).driver? driver = some left.driver :=
  Serves.driver?_eq (serves_putSite found rfl)

theorem driver?_of_site? (found : world.site? driver = some site) :
    world.driver? driver = some site.driver := by
  obtain ⟨number, isThere, _⟩ := site?_eq_some_iff.mp found
  rw [World.driver?, isThere]
  rfl

/-- A driver is where it has been put. -/
theorem site?_putSite_self (found : world.site? driver = some site)
    (left : Site δ σ) :
    (World.putSite driver left world).site? driver = some left := by
  obtain ⟨number, isThere, device, _⟩ := site?_eq_some_iff.mp found
  have inside : driver < world.drivers.length :=
    (List.getElem?_eq_some_iff.mp isThere).1
  have there : number < world.devices.length :=
    (List.getElem?_eq_some_iff.mp device).1
  rw [site?_eq_some_iff]
  simp only [World.putSite, isThere]
  exact ⟨number, List.getElem?_set_self inside, List.getElem?_set_self there,
    trivial⟩

/-- A driver that leaves its medium alone leaves all devices alone. -/
theorem devices_putSite (found : world.site? driver = some site)
    (same : left.medium = site.medium) :
    (World.putSite driver left world).devices = world.devices
      ∧ (World.putSite driver left world).events = world.events := by
  obtain ⟨number, isThere, device, events⟩ := site?_eq_some_iff.mp found
  obtain ⟨there, sameDevice⟩ := List.getElem?_eq_some_iff.mp device
  have devices := List.set_getElem_self there
  rw [sameDevice] at devices
  simp only [World.putSite, isThere, devices, same, ← events, and_self]

/-- A driver that leaves its site as it was leaves the world as it was. -/
theorem putSite_self (found : world.site? driver = some site) :
    World.putSite driver site world = world := by
  obtain ⟨number, isThere, device, events⟩ := site?_eq_some_iff.mp found
  obtain ⟨inside, sameDriver⟩ := List.getElem?_eq_some_iff.mp isThere
  obtain ⟨there, sameDevice⟩ := List.getElem?_eq_some_iff.mp device
  have drivers := List.set_getElem_self inside
  have devices := List.set_getElem_self there
  rw [sameDriver] at drivers
  rw [sameDevice] at devices
  simp only [World.putSite, isThere, drivers, devices, ← events]

end

/-! ### Name spaces -/

/-- Each mount has a driver of its own, which is there and has the
property. -/
structure Serving (good : δ → Prop) (space : NameSpace δ σ) : Prop where
  distinct : (space.mounts.map Mount.driver).Nodup
  serves : ∀ mount ∈ space.mounts, Serves good space.world mount.driver

/-- All is in order behind the mounts, and this driver is behind none of
them. -/
structure Aside (good : δ → Prop) (driver : DriverId)
    (space : NameSpace δ σ) : Prop where
  serving : Serving good space
  spare : driver ∉ space.mounts.map Mount.driver

section

variable {good : δ → Prop} {driver : DriverId} {space : NameSpace δ σ}

/-- Nothing else matters than the mounts and the world below. -/
theorem Serving.congr {other : NameSpace δ σ} (serving : Serving good space)
    (mounts : other.mounts = space.mounts)
    (serves : ∀ driver, Serves good space.world driver →
      Serves good other.world driver) : Serving good other := by
  constructor
  · rw [mounts]
    exact serving.distinct
  · rw [mounts]
    exact fun mount member => serves _ (serving.serves mount member)

theorem Serves.alike {other : NameSpace δ σ} (alike : Alike space other)
    (serves : Serves good space.world driver) :
    Serves good other.world driver := by
  rw [Serves, alike.drivers, alike.devices]
  exact serves

theorem indifferent_serving :
    Indifferent (Serving good : NameSpace δ σ → Prop) :=
  fun _ _ alike serving =>
    serving.congr alike.mounts fun _ serves => serves.alike alike

theorem Serving.descriptors (serving : Serving good space)
    (descriptors : DescriptorTable DriverId) :
    Serving good { space with descriptors } :=
  serving.congr rfl fun _ serves => serves

/-- A driver that keeps the property can do what it likes. -/
theorem Serving.putSite (serving : Serving good space)
    {site left : Site δ σ} (found : space.world.site? driver = some site)
    (keeps : good site.driver → good left.driver) :
    Serving good
      { space with world := World.putSite driver left space.world } := by
  refine serving.congr rfl fun other serves => ?_
  by_cases same : other = driver
  · subst same
    exact serves_putSite found (keeps (serves.of_site? found))
  · exact serves.putSite same left

/-- And so can one that is behind no mount. -/
theorem Aside.putSite (aside : Aside good driver space)
    (left : Site δ σ) :
    Aside good driver
      { space with world := World.putSite driver left space.world } := by
  refine ⟨⟨aside.serving.distinct, fun mount member => ?_⟩, aside.spare⟩
  have different : mount.driver ≠ driver := by
    intro same
    exact aside.spare (same ▸ List.mem_map_of_mem member)
  exact (aside.serving.serves mount member).putSite different left

theorem keeps_note_aside (driver : DriverId) (event : Event) :
    Keeps (Aside good driver : NameSpace δ σ → Prop) (note event) :=
  fun _ aside => ⟨indifferent_serving.events aside.serving _, aside.spare⟩

/-- A driver that is added gets a number that no mount has. -/
theorem ensures_build (fsType : String) (device : DeviceId) :
    Ensures (Serving good : NameSpace δ σ → Prop) (build fsType device)
      (fun driver => Aside good driver) (fun _ => Serving good) := by
  refine ensures_bind keeps_get fun _ => ?_
  refine ensures_bind (keeps_ofExcept _) fun fresh => ?_
  refine ensures_within fun space serving => ?_
  have grown : Extends space.world { space.world with
      drivers := space.world.drivers ++ [⟨fresh, device⟩] } :=
    ⟨Nat.le_refl _, List.prefix_append _ _⟩
  refine ⟨serving.congr rfl fun _ serves => serves.extends grown, ?_⟩
  -- The number is that of no driver that is there.
  intro taken
  obtain ⟨mount, member, same⟩ := List.mem_map.mp taken
  obtain ⟨_, found, _⟩ := serving.serves mount member
  have inside := (List.getElem?_eq_some_iff.mp found).1
  exact absurd same (Nat.ne_of_lt inside)

/-- A driver that is in order and behind no mount can be put behind
one. -/
theorem ensures_enter_serving (path fsType : String) (driver : DriverId) :
    Ensures
      (fun space : NameSpace δ σ =>
        Aside good driver space ∧ Serves good space.world driver)
      (enter ⟨path, fsType, driver⟩)
      (fun _ => Serving good) (fun _ => Serving good) := by
  rintro space ⟨⟨serving, spare⟩, serves⟩
  refine (ensures_enter_perm ⟨path, fsType, driver⟩ space).apply rfl |>.imp
    ?_ (fun _ _ same => same ▸ serving)
  rintro _ _ ⟨mounts, perm, rfl⟩
  constructor
  · rw [(perm.map Mount.driver).nodup_iff]
    exact List.nodup_cons.mpr ⟨spare, serving.distinct⟩
  · intro mount member
    cases List.mem_cons.mp (perm.mem_iff.mp member) with
    | inl new =>
      rw [new]
      exact serves
    | inr member => exact serving.serves mount member

/-- A driver whose mount is taken out is behind no other one. -/
theorem ensures_withdraw (path : String) :
    Ensures (Serving good : NameSpace δ σ → Prop) (withdraw path)
      (fun mount => Aside good mount.driver) (fun _ => Serving good) := by
  intro space serving
  refine (ensures_withdraw_perm path space).apply rfl |>.imp ?_
    (fun _ _ same => same ▸ serving)
  rintro mount _ ⟨mounts, perm, rfl⟩
  have distinct := (perm.map Mount.driver).nodup_iff.mp serving.distinct
  obtain ⟨spare, distinct⟩ := List.nodup_cons.mp distinct
  refine ⟨⟨distinct, fun other member => ?_⟩, spare⟩
  exact serving.serves other (perm.mem_iff.mpr (List.mem_cons_of_mem _ member))

end

/-! ### Requests -/

variable [Driver δ σ]

/-- What a request to a driver does to a name space. -/
theorem run_call (driver : DriverId) (request : Request α)
    (space : NameSpace δ σ) :
    (call driver request).run space =
      match space.world.site? driver with
      | none => .refused .noDevice space
      | some site =>
        match (Driver.serve request).run site with
        | .done value left => .done value
          { space with world := World.putSite driver left space.world }
        | .refused fault left => .refused fault
          { space with world := World.putSite driver left space.world }
        | .stopped trap => .stopped trap := by
  simp only [call, inWorld, Action.run_within, World.call]
  cases space.world.site? driver with
  | none => rfl
  | some site =>
    simp only
    cases (Driver.serve request).run site <;> rfl

omit [Driver δ σ] in
theorem run_fileOf {space : NameSpace δ σ} {descriptor : Nat}
    {opened : OpenFile DriverId}
    (held : space.descriptors.get descriptor = .ok opened) :
    (fileOf descriptor).run space = .done opened space := by
  show (Action.ofExcept _).run space = _
  rw [held]
  rfl

omit [Driver δ σ] in
theorem run_requireWindow {space : NameSpace δ σ} {buffer : Bytes}
    {offset length : Nat} (inside : offset + length ≤ buffer.length) :
    (requireWindow buffer offset length).run space = .done () space := by
  rw [requireWindow, if_pos inside]
  rfl

/-- A request that is done has been answered by a driver that is there. -/
theorem run_call_eq_done {driver : DriverId} {request : Request α}
    {space after : NameSpace δ σ} {value : α}
    (run : (call driver request).run space = .done value after) :
    ∃ site left, space.world.site? driver = some site
      ∧ (Driver.serve request).run site = .done value left
      ∧ after = { space with
          world := World.putSite driver left space.world } := by
  rw [run_call] at run
  cases found : space.world.site? driver with
  | none =>
    rw [found] at run
    nomatch run
  | some site =>
    rw [found] at run
    simp only at run
    split at run
    · next left ends =>
      cases run
      exact ⟨site, left, rfl, ends, rfl⟩
    · nomatch run
    · nomatch run

/-- A driver that only answers leaves the whole name space as it was. -/
theorem run_call_of_done {driver : DriverId} {request : Request α}
    {space : NameSpace δ σ} {site : Site δ σ} {value : α}
    (found : space.world.site? driver = some site)
    (run : (Driver.serve request).run site = .done value site) :
    (call driver request).run space = .done value space := by
  rw [run_call, found]
  simp only [run, putSite_self found]

theorem run_call_of_refused {driver : DriverId} {request : Request α}
    {space : NameSpace δ σ} {site : Site δ σ} {fault : Fault}
    (found : space.world.site? driver = some site)
    (run : (Driver.serve request).run site = .refused fault site) :
    (call driver request).run space = .refused fault space := by
  rw [run_call, found]
  simp only [run, putSite_self found]

/-- A driver sees its site and changes nothing else. -/
theorem ensures_call {driver : DriverId} {request : Request α}
    {before : NameSpace δ σ → Prop} {done : α → NameSpace δ σ → Prop}
    {refused : Fault → NameSpace δ σ → Prop}
    (missing : ∀ space, before space → space.world.site? driver = none →
      refused .noDevice space)
    (serve : ∀ space site, before space →
      space.world.site? driver = some site →
      Meets
        (fun value left => done value
          { space with world := World.putSite driver left space.world })
        (fun fault left => refused fault
          { space with world := World.putSite driver left space.world })
        ((Driver.serve request).run site)) :
    Ensures before (call driver request) done refused := by
  intro space start
  rw [run_call]
  cases found : space.world.site? driver with
  | none => exact missing space start found
  | some site =>
    have meets := serve space site start found
    cases ending : (Driver.serve request).run site with
    | done value left | refused fault left =>
      rw [ending] at meets
      simp only [ending]
      exact meets
    | stopped trap =>
      simp only [ending]
      trivial

/-- What holds of every driver that has just been mounted, and is kept by
requests about files. -/
structure Lasting (σ : Type) [Driver δ σ] (good : δ → Prop) : Prop where
  mount : Ensures (fun _ : Site δ σ => True) (Driver.serve .mount)
    (fun _ site => good site.driver) (fun _ _ => True)
  files {α : Type} {request : Request α} : AboutFiles request →
    Keeps (fun site : Site δ σ => good site.driver) (Driver.serve request)

section

variable {good : δ → Prop}

/-- Requests about files, events and descriptors leave all drivers behind
mounts as they have to be. -/
theorem steady_serving (lasting : Lasting σ good) :
    Steady (Serving good : NameSpace δ σ → Prop) where
  note := indifferent_serving.note
  descriptors action := by
    refine keeps_within ?_ action
    intro _ space serving
    exact serving.descriptors _
  files driver request files := by
    refine ensures_call (fun _ serving _ => serving) ?_
    intro space site serving found
    -- Where the property does not hold there is none to keep.
    by_cases holds : good site.driver
    · exact ((lasting.files files).apply holds).imp
        (fun _ _ still => serving.putSite found fun _ => still)
        (fun _ _ still => serving.putSite found fun _ => still)
    · exact meets_of_forall _
        (fun _ _ => serving.putSite found fun had => absurd had holds)
        (fun _ _ => serving.putSite found fun had => absurd had holds)

/-- A driver behind no mount can be asked anything. -/
theorem keeps_call_aside (driver : DriverId) (request : Request α) :
    Keeps (Aside good driver : NameSpace δ σ → Prop)
      (call driver request) := by
  refine ensures_call (fun _ aside _ => aside) ?_
  intro space site aside _
  exact meets_of_forall _ (fun _ left => aside.putSite left)
    (fun _ left => aside.putSite left)

/-- When it has been mounted it can be put behind a mount. -/
theorem ensures_call_mount (lasting : Lasting σ good) (driver : DriverId) :
    Ensures (Aside good driver : NameSpace δ σ → Prop)
      (call driver .mount)
      (fun _ space =>
        Aside good driver space ∧ Serves good space.world driver)
      (fun _ => Aside good driver) := by
  refine ensures_call (fun _ aside _ => aside) ?_
  intro space site aside found
  exact (lasting.mount.apply trivial).imp
    (fun _ left holds => ⟨aside.putSite left, serves_putSite found holds⟩)
    (fun _ left _ => aside.putSite left)

/-! ### Commands -/

/-- A driver is in order when it is put behind a mount. -/
theorem mounting_serving (lasting : Lasting σ good) (device : DeviceId) :
    Mounting device (Serving good : NameSpace δ σ → Prop) (Aside good)
      (fun driver space =>
        Aside good driver space ∧ Serves good space.world driver)
      (Serving good) where
  early serving := serving
  given aside := aside.serving
  build fsType := ensures_build fsType device
  noteAside := keeps_note_aside
  format driver := keeps_call_aside driver .format
  mount := ensures_call_mount lasting
  enter := ensures_enter_serving
  noteAfter := (steady_serving lasting).note

/-- And it is behind no mount any more when it is unmounted. -/
theorem unmounting_serving (lasting : Lasting σ good) :
    Unmounting (fun _ => (Serving good : NameSpace δ σ → Prop))
      (Aside good) (Serving good) where
  withdraw := ensures_withdraw
  noteRetired := keeps_note_aside
  unmount driver :=
    (keeps_call_aside driver .unmount).imp (fun _ aside => aside)
      (fun _ _ aside => aside.serving) (fun _ _ aside => aside.serving)
  noteAfter := (steady_serving lasting).note

/-- Every command leaves the drivers behind mounts as they have to be. -/
theorem keeps_run_serving (lasting : Lasting σ good)
    (command : Command δ α) :
    Keeps (Serving good : NameSpace δ σ → Prop) (run command) := by
  have steady : Steady (Serving good : NameSpace δ σ → Prop) :=
    steady_serving lasting
  exact keeps_run_of_mounting indifferent_serving steady.calm
    (mounting_serving lasting) (unmounting_serving lasting) command
    (fun _ => keeps_run_of_opens steady)
    (fun descriptor _ => keeps_close steady descriptor)

/-- In a name space in use all drivers behind mounts have the property. -/
theorem serving_of_reachable (lasting : Lasting σ good)
    {others : World δ σ → World δ σ → Prop}
    (calm : ∀ world later, others world later → Extends world later)
    {space : NameSpace δ σ} (reachable : Reachable others space) :
    Serving good space := by
  refine reachable.holds ?_ ?_ (keeps_run_serving lasting)
  · intro descriptorLimit
    exact ⟨List.nodup_nil, nofun⟩
  · intro space world serving change
    exact serving.congr rfl fun _ serves =>
      serves.extends (calm _ _ change)

end

end MountSpace.Proofs.NameSpaces
