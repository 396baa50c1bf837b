import MountSpace.Proofs.NameSpaces.Courses
import MountSpace.Proofs.NameSpaces.Isolation
import MountSpace.Proofs.Storage.Oblivious
import MountSpace.Proofs.Volumes.Mounts
import MountSpace.Proofs.Volumes.Unmounted

/-!
# `MountSpace.Proofs.NameSpaces.MountAttempts`: mounted, or nothing done

To mount a device is to look at the directory of the path, to make a driver,
to have it read the device, and to enter it into the table. All of these can
be refused but the last: the path was free, and nothing has been mounted
since. So a driver that is mounted is entered.

* `Attempts`: what a new driver is asked. `ensures_start_course`: these are
  its attempts, and after the last one it is ready or idle (`Readies`).
* `OneMore`, `NoMore`: what a request to mount ends with.
* `readies_backend`: volumes and scratch volumes that refuse to mount are as
  they were.
* `Attempted.onlyRead`: on a device that can be mounted a volume makes no
  second attempt, and the first one only reads.
-/

set_option autoImplicit false

namespace MountSpace.Proofs.NameSpaces

open Effects
open MountSpace.NameSpace
open Routing (insert_eq_ok_iff place_eq_append)
open Storage (Undisturbed mounts_of_mounts)
open Volumes (keeps_format_unmounted keeps_onMedium undisturbed_of_mount)

variable {δ σ α : Type}

/-! ### New drivers -/

/-- A driver is in such a state, if it is there. -/
def Rests (idle : δ → Prop) (world : World δ σ) (driver : DriverId) : Prop :=
  ∀ state, world.driver? driver = some state → idle state

/-- A world with one driver more. -/
def adding (fresh : δ) (device : DeviceId) (world : World δ σ) :
    World δ σ :=
  { world with drivers := world.drivers ++ [⟨fresh, device⟩] }

section

variable {idle : δ → Prop} {world : World δ σ} {driver : DriverId}

theorem rests_adding {fresh : δ} (isIdle : idle fresh) (device : DeviceId) :
    Rests idle (adding fresh device world) world.drivers.length := by
  intro state found
  rw [World.driver?, adding, List.getElem?_concat_length] at found
  exact Option.some.inj found ▸ isIdle

theorem rests_of_serves (serves : Serves idle world driver) :
    Rests idle world driver := by
  obtain ⟨installed, isThere, _, holds⟩ := serves
  intro state found
  rw [World.driver?, isThere] at found
  exact Option.some.inj found ▸ holds

/-- Where there is no driver there is none in another state. -/
theorem rests_of_length_le (beyond : world.drivers.length ≤ driver) :
    Rests idle world driver := by
  intro state found
  rw [World.driver?, List.getElem?_eq_none beyond] at found
  cases found

end

/-- An idle driver is ready when it has been mounted, and stays idle when that
is refused. To be formatted leaves it idle. -/
structure Readies (σ : Type) [Driver δ σ] (idle ready : δ → Prop) :
    Prop where
  mount : Ensures (fun site : Site δ σ => idle site.driver)
    (Driver.serve .mount) (fun _ site => ready site.driver)
    (fun _ site => idle site.driver)
  format : Keeps (fun site : Site δ σ => idle site.driver)
    (Driver.serve .format)

/-- Nothing has been asked but what paths name. -/
def OnlyTold (exchanges : List Exchange) : Prop :=
  ∀ exchange ∈ exchanges, ∃ driver path answer,
    exchange = ⟨driver, .stat path, answer⟩

/-- What a new driver is asked, and what comes of it. It is asked to mount. If
it refuses and may be formatted, it is asked for that once, and then to mount
once more. -/
inductive Attempts (driver : DriverId) :
    Bool → List Exchange → Except Fault Unit → Prop
  | mounted {autoFormat : Bool} :
    Attempts driver autoFormat [⟨driver, .mount, .ok ()⟩] (.ok ())
  | refused {fault : Fault} :
    Attempts driver false [⟨driver, .mount, .error fault⟩] (.error fault)
  | unformatted {first fault : Fault} :
    Attempts driver true
      [⟨driver, .mount, .error first⟩, ⟨driver, .format, .error fault⟩]
      (.error fault)
  | formatted {first : Fault} {answer : Except Fault Unit} :
    Attempts driver true
      [⟨driver, .mount, .error first⟩, ⟨driver, .format, .ok ()⟩,
        ⟨driver, .mount, answer⟩]
      answer

variable [Driver δ σ]

/-- Of drivers of which nothing is known nothing is said. -/
theorem readies_true :
    Readies σ (fun _ : δ => True) (fun _ => True) where
  mount _ _ := meets_of_forall _ (fun _ _ => trivial) (fun _ _ => trivial)
  format := keeps_true _

section

variable {idle ready : δ → Prop} {first : NameSpace δ σ}
  {driver : DriverId} {exchanges : List Exchange}

/-- A driver that is asked alone changes its state, and the others do not
matter. -/
theorem ensures_call_rests {request : Request α} {good : δ → Prop}
    (serve : Ensures (fun site : Site δ σ => idle site.driver)
      (Driver.serve request) (fun _ site => good site.driver)
      (fun _ site => idle site.driver)) :
    Ensures (fun space : NameSpace δ σ => Rests idle space.world driver)
      (call driver request)
      (fun _ space => Serves good space.world driver)
      (fun _ space => Rests idle space.world driver) := by
  refine ensures_call (fun _ rests _ => rests) fun space site rests found => ?_
  have isIdle := rests _ (driver?_of_site? found)
  exact (serve.apply isIdle).imp
    (fun _ _ holds => serves_putSite found holds)
    (fun _ _ still => rests_of_serves (serves_putSite found still))

theorem ensures_mount_course (readies : Readies σ idle ready) :
    Ensures (fun space => Along first exchanges space
        ∧ Rests idle space.world driver)
      (call driver .mount)
      (fun _ space => Along first (exchanges ++ [⟨driver, .mount, .ok ()⟩])
          space ∧ Serves ready space.world driver)
      (fun fault space => Along first
          (exchanges ++ [⟨driver, .mount, .error fault⟩]) space
        ∧ Rests idle space.world driver) :=
  (ensures_call_along driver .mount).and (ensures_call_rests readies.mount)

theorem ensures_format_course (readies : Readies σ idle ready) :
    Ensures (fun space => Along first exchanges space
        ∧ Rests idle space.world driver)
      (call driver .format)
      (fun _ space => Along first (exchanges ++ [⟨driver, .format, .ok ()⟩])
          space ∧ Rests idle space.world driver)
      (fun fault space => Along first
          (exchanges ++ [⟨driver, .format, .error fault⟩]) space
        ∧ Rests idle space.world driver) :=
  (ensures_call_along driver .format).and
    ((ensures_call_rests readies.format).imp (fun _ rests => rests)
      (fun _ _ serves => rests_of_serves serves) (fun _ _ rests => rests))

/-- What a driver is asked when it is started are its attempts. It is ready
after the last one, or still idle. -/
theorem ensures_start_course (readies : Readies σ idle ready)
    (path : String) (autoFormat : Bool) :
    Ensures (fun space => Along first [] space
        ∧ Rests idle space.world driver)
      (start path driver autoFormat)
      (fun _ space => (∃ tried, Attempts driver autoFormat tried (.ok ())
          ∧ Along first tried space) ∧ Serves ready space.world driver)
      (fun fault space => (∃ tried,
          Attempts driver autoFormat tried (.error fault)
          ∧ Along first tried space) ∧ Rests idle space.world driver) := by
  have attempt : Ensures
      (fun space => Along first [] space ∧ Rests idle space.world driver)
      (call driver .mount).attempt
      (fun answer space => Along first [⟨driver, .mount, answer⟩] space
        ∧ if answer = .ok () then Serves ready space.world driver
          else Rests idle space.world driver)
      (fun fault space => (∃ tried,
          Attempts driver autoFormat tried (.error fault)
          ∧ Along first tried space) ∧ Rests idle space.world driver) :=
    ensures_attempt (ensures_mount_course readies)
  refine ensures_bind attempt fun answer => ?_
  cases answer with
  | ok value =>
    rintro space ⟨along, serves⟩
    exact ⟨⟨_, .mounted, along⟩, serves⟩
  | error early =>
    cases autoFormat with
    | false =>
      rintro space ⟨along, rests⟩
      exact ⟨⟨_, .refused, along⟩, rests⟩
    | true =>
      have retried : Keeps (fun space : NameSpace δ σ =>
          Along first [⟨driver, .mount, .error early⟩] space
            ∧ Rests idle space.world driver)
          (note (.mountRetried path early)) :=
        (keeps_note_along _).and fun _ rests => rests
      refine ensures_bind (ensures_note retried) fun _ => ?_
      refine ensures_bind ((ensures_format_course readies).refusing ?_)
        fun _ => (ensures_mount_course readies).imp (fun _ start => start)
          ?_ ?_
      · exact fun _ _ known => ⟨⟨_, .unformatted, known.1⟩, known.2⟩
      · exact fun _ _ known => ⟨⟨_, .formatted, known.1⟩, known.2⟩
      · exact fun _ _ known => ⟨⟨_, .formatted, known.1⟩, known.2⟩

/-! ### On the way to a mount -/

/-- Of a name space only the world has changed, and nothing has been asked but
what paths name. -/
def Looked (first space : NameSpace δ σ) : Prop :=
  ∃ early, OnlyTold early ∧ Along first early space

theorem Looked.start (first : NameSpace δ σ) : Looked first first :=
  ⟨[], List.forall_mem_nil _, .start first⟩

theorem keeps_stat_looked (path : String) :
    Keeps (Looked first) (stat path) := by
  rintro space ⟨early, told, along⟩
  have one {driver : DriverId} {rest : String} {answer : Except Fault Stat} :
      OnlyTold (early ++ [⟨driver, .stat rest, answer⟩]) := by
    intro exchange member
    cases List.mem_append.mp member with
    | inl early => exact told exchange early
    | inr last => exact ⟨_, _, _, List.mem_singleton.mp last⟩
  refine ensures_bind ((ensures_lookup_along path).refusing ?_) ?_ space along
  · exact fun _ _ known => ⟨early, told, known.2⟩
  · rintro ⟨mount, rest⟩ between ⟨_, along⟩
    refine ((ensures_call_along mount.driver (.stat rest)).apply along).imp
      ?_ ?_
    · exact fun _ _ asked => ⟨_, one, asked⟩
    · exact fun _ _ asked => ⟨_, one, asked⟩

/-- Where nothing is refused nothing is mounted yet. -/
theorem ensures_requireFree_looked (path : String) :
    Ensures (Looked first) (requireFree path)
      (fun _ space => path ∉ first.mounts.map Mount.path
        ∧ Looked first space)
      (fun _ => Looked first) := by
  rintro _ ⟨early, told, world, rfl, course⟩
  have looked : Looked first { first with world } :=
    ⟨early, told, world, rfl, course⟩
  show Meets _ _ (Action.run (if first.mounts.contains path then
    Action.refuse .alreadyExists else pure ()) _)
  by_cases taken : first.mounts.contains path = true
  · rw [if_pos taken]
    exact looked
  · rw [if_neg taken]
    refine ⟨fun member => taken ?_, looked⟩
    simpa [MountTable.contains] using member

variable {fsType path : String} {device : DeviceId} {autoFormat : Bool}

/-- There is a fresh driver of the type, and what has been asked before it is
made are paths. -/
structure Prepared (first : NameSpace δ σ) (fsType : String) (fresh : δ)
    (early : List Exchange) (between : World δ σ) : Prop where
  created : first.registry.create fsType = .ok fresh
  told : OnlyTold early
  looked : Course first.world early between

/-- The driver has been made for a device and asked to mount. -/
structure Attempted (first : NameSpace δ σ) (fsType : String)
    (device : DeviceId) (autoFormat : Bool) (fresh : δ)
    (early tried : List Exchange) (between later : World δ σ)
    (answer : Except Fault Unit) : Prop where
  prepared : Prepared first fsType fresh early between
  attempts : Attempts first.world.drivers.length autoFormat tried answer
  asked : Course (adding fresh device between) tried later
  /-- If the driver keeps a log, this is what it has in the log. -/
  logged : ∀ {ι : Type} (entry : Entry ι) (log : δ → List ι),
    Logs σ entry log → ∀ known,
      Serves (log · = known) (adding fresh device between)
          first.world.drivers.length →
        Serves (log · = known
            ++ entries entry first.world.drivers.length tried) later
          first.world.drivers.length

/-- There is one mount more, at the path, and its driver is the new one. -/
structure OneMore (ready : δ → Prop) (first : NameSpace δ σ)
    (path fsType : String) (device : DeviceId) (autoFormat : Bool)
    (after : NameSpace δ σ) : Prop where
  free : Path.resolve first.directory path ∉ first.mounts.map Mount.path
  entered : ∃ before later, first.mounts = before ++ later
    ∧ after = { first with
        mounts := before ++ ⟨Path.resolve first.directory path, fsType,
          first.world.drivers.length⟩ :: later
        world := after.world }
  attempted : ∃ fresh early tried between, Attempted first fsType device
    autoFormat fresh early tried between after.world (.ok ())
  serves : Serves ready after.world first.world.drivers.length

/-- Nothing has changed but the world, and no new driver is there but an idle
one. -/
structure NoMore (idle : δ → Prop) (first : NameSpace δ σ)
    (fsType : String) (device : DeviceId) (autoFormat : Bool)
    (fault : Fault) (after : NameSpace δ σ) : Prop where
  same : after = { first with world := after.world }
  attempted : (∃ early, OnlyTold early
      ∧ Course first.world early after.world)
    ∨ ∃ fresh early tried between, Attempted first fsType device autoFormat
      fresh early tried between after.world (.error fault)
  idle : ∀ driver, first.world.drivers.length ≤ driver →
    Rests idle after.world driver

/-- Who has only looked has made no driver. -/
theorem Looked.noMore {space : NameSpace δ σ} {fault : Fault}
    (looked : Looked first space) :
    NoMore idle first fsType device autoFormat fault space := by
  obtain ⟨early, told, world, rfl, course⟩ := looked
  exact ⟨rfl, .inl ⟨early, told, course⟩, fun driver new =>
    rests_of_length_le (course.length_drivers ▸ new)⟩

theorem ensures_build_looked
    (isIdle : ∀ fresh, first.registry.create fsType = .ok fresh →
      idle fresh) :
    Ensures (Looked first) (build fsType device)
      (fun driver space => driver = first.world.drivers.length
        ∧ ∃ fresh early between, Prepared first fsType fresh early between
          ∧ Rests idle (adding fresh device between)
            first.world.drivers.length
          ∧ space = { first with world := adding fresh device between })
      (fun _ => Looked first) := by
  rintro _ ⟨early, told, between, rfl, course⟩
  show Meets _ _ ((Action.ofExcept _ >>= _).run _)
  cases created : first.registry.create fsType with
  | error fault => exact ⟨early, told, between, rfl, course⟩
  | ok fresh =>
    have rests : Rests idle (adding fresh device between)
        between.drivers.length := rests_adding (isIdle fresh created) device
    rw [course.length_drivers] at rests
    exact ⟨course.length_drivers, fresh, early, between,
      ⟨created, told, course⟩, rests, rfl⟩

/-- What has been asked after a driver has been prepared. -/
theorem Prepared.attempted {fresh : δ} {early tried : List Exchange}
    {between later : World δ σ} {answer : Except Fault Unit}
    (prepared : Prepared first fsType fresh early between)
    (attempts : Attempts first.world.drivers.length autoFormat tried answer)
    (course : Course (adding fresh device between) tried later) :
    Attempted first fsType device autoFormat fresh early tried between later
      answer where
  prepared := prepared
  attempts := attempts
  asked := course
  logged _ _ logs _ serves := course.logged logs serves

/-- The new driver is the last one. -/
theorem Prepared.noMore {fresh : δ} {early tried : List Exchange}
    {between : World δ σ} {space : NameSpace δ σ} {fault : Fault}
    (prepared : Prepared first fsType fresh early between)
    (attempts : Attempts first.world.drivers.length autoFormat tried
      (.error fault))
    (along : Along { first with world := adding fresh device between } tried
      space)
    (rests : Rests idle space.world first.world.drivers.length) :
    NoMore idle first fsType device autoFormat fault space := by
  obtain ⟨world, rfl, course⟩ := along
  refine ⟨rfl, .inr ⟨fresh, early, tried, between,
    prepared.attempted attempts course⟩, fun driver new => ?_⟩
  have length : world.drivers.length = first.world.drivers.length + 1 := by
    rw [course.length_drivers, adding, List.length_append,
      prepared.looked.length_drivers]
    rfl
  obtain rfl | further := Nat.eq_or_lt_of_le new
  · exact rests
  · exact rests_of_length_le (length ▸ further)

/-- The driver is entered into the table, for the path is still free. -/
theorem Prepared.oneMore {fresh : δ} {early tried : List Exchange}
    {between : World δ σ}
    (prepared : Prepared first fsType fresh early between)
    (free : Path.resolve first.directory path ∉ first.mounts.map Mount.path)
    (attempts : Attempts first.world.drivers.length autoFormat tried
      (.ok ())) :
    Ensures (fun space =>
        Along { first with world := adding fresh device between } tried space
          ∧ Serves ready space.world first.world.drivers.length)
      (enter ⟨Path.resolve first.directory path, fsType,
          first.world.drivers.length⟩ >>= fun _ =>
        note (.mounted fsType (Path.resolve first.directory path)))
      (fun _ => OneMore ready first path fsType device autoFormat)
      (fun fault => NoMore idle first fsType device autoFormat fault) := by
  rintro _ ⟨⟨world, rfl, course⟩, serves⟩
  let mount : Mount DriverId :=
    ⟨Path.resolve first.directory path, fsType, first.world.drivers.length⟩
  obtain ⟨before, later, split, placed⟩ := place_eq_append mount first.mounts
  -- The table has not changed since the path was found to be free.
  have inserted : first.mounts.insert mount = .ok (before ++ mount :: later) :=
    insert_eq_ok_iff.mpr ⟨free, placed.symm⟩
  rw [Action.run_bind, run_enter, inserted]
  exact ⟨free, ⟨before, later, split, rfl⟩, ⟨fresh, early, tried, between,
    prepared.attempted attempts (course.note _)⟩, serves⟩

/-- Mounting ends with one mount more or with none. -/
theorem ensures_mount_attempted (readies : Readies σ idle ready)
    (isIdle : ∀ fresh, first.registry.create fsType = .ok fresh →
      idle fresh)
    (path : String) (device : DeviceId) (autoFormat : Bool) :
    Ensures (· = first) (mount path device fsType autoFormat)
      (fun _ => OneMore ready first path fsType device autoFormat)
      (fun fault => NoMore idle first fsType device autoFormat fault) := by
  have early (fault : Fault) (space : NameSpace δ σ)
      (looked : Looked first space) :
      NoMore idle first fsType device autoFormat fault space := looked.noMore
  have resolved : Ensures (· = first) (resolve path)
      (fun full space => full = Path.resolve first.directory path
        ∧ Looked first space)
      (fun fault => NoMore idle first fsType device autoFormat fault) := by
    rintro _ rfl
    exact ⟨rfl, .start _⟩
  refine ensures_bind resolved fun full => ?_
  rintro space ⟨rfl, looked⟩
  have parent : Ensures (Looked first)
      (requireParent (Path.resolve first.directory path))
      (fun _ => Looked first)
      (fun fault => NoMore idle first fsType device autoFormat fault) :=
    (keeps_requireParent (keeps_stat_looked _)).refusing early
  refine ensures_bind parent (fun _ => ?_) space looked
  refine ensures_bind ((ensures_requireFree_looked _).refusing early)
    fun _ => ?_
  rintro space ⟨free, looked⟩
  -- Until here no driver has been made, and after it only that one is asked.
  refine ensures_bind ((ensures_build_looked isIdle).refusing early)
    (fun driver => ?_) space looked
  rintro _ ⟨rfl, fresh, told, between, prepared, rests, rfl⟩
  refine ensures_bind ((ensures_start_course readies _ _).refusing ?_)
    (fun _ => ?_) _ ⟨.start _, rests⟩
  · rintro fault space ⟨⟨tried, attempts, along⟩, rests⟩
    exact prepared.noMore attempts along rests
  · rintro space ⟨⟨tried, attempts, along⟩, serves⟩
    exact prepared.oneMore free attempts space ⟨along, serves⟩

end

/-! ### Volumes and scratch volumes -/

/-- A driver of either type is mounted. -/
def IsMounted : Backend → Prop
  | .volume volume => volume.mounted.isSome
  | .scratch hampered => hampered.scratch.mounted

section

variable {τ : Type} [BlockDevice τ]

theorem ensures_mount_volume :
    Ensures (fun site : Site Volume τ => ¬ site.driver.mounted.isSome)
      Volume.mount (fun _ site => site.driver.mounted.isSome)
      (fun _ site => ¬ site.driver.mounted.isSome) := by
  refine ensures_bind (keeps_onMedium (fun volume : Volume =>
    ¬ volume.mounted.isSome) _) fun found => ?_
  exact fun _ _ => rfl

theorem ensures_mount_scratch :
    Ensures (fun site : Site Scratch τ => ¬ site.driver.mounted)
      Scratch.mount (fun _ site => site.driver.mounted)
      (fun _ site => ¬ site.driver.mounted) := by
  refine ensures_bind (keeps_modify fun _ same => same) fun _ => ?_
  refine ensures_bind (keeps_onMedium (fun scratch : Scratch =>
    ¬ scratch.mounted) _) fun found => ?_
  cases found with
  | none => exact fun _ idle => idle
  | some start =>
    intro site idle
    show Meets _ _ (Action.run (ite _ _ _) site)
    split
    · exact rfl
    · exact idle

theorem keeps_format_scratch :
    Keeps (fun site : Site Scratch τ => ¬ site.driver.mounted)
      Scratch.format := by
  refine keeps_bind (keeps_modify fun _ same => same) fun _ => ?_
  refine keeps_bind (keeps_onMedium (fun scratch : Scratch =>
    ¬ scratch.mounted) _) fun written => ?_
  exact keeps_ite (fun _ => keeps_modify fun _ same => same)
    fun _ => keeps_refuse _

/-- Volumes and scratch volumes are as they were when they cannot be
mounted. -/
theorem readies_backend :
    Readies τ (fun driver : Backend => ¬ IsMounted driver) IsMounted where
  mount := by
    rintro ⟨driver, medium⟩ idle
    cases driver with
    | volume volume =>
      exact meets_hosting volume Backend.volume
        (ensures_mount_volume.apply idle)
    | scratch hampered =>
      refine meets_hampered ?_
      rw [answer_eq_serve id]
      exact ensures_mount_scratch.apply idle
  format := by
    rintro ⟨driver, medium⟩ idle
    cases driver with
    | volume volume =>
      have idle : ¬ volume.mounted.isSome := idle
      refine meets_hosting volume Backend.volume ?_
      exact (keeps_format_unmounted.apply
        (Option.not_isSome_iff_eq_none.mp idle)).imp
        (fun _ _ none => Option.not_isSome_iff_eq_none.mpr none)
        (fun _ _ none => Option.not_isSome_iff_eq_none.mpr none)
    | scratch hampered =>
      refine meets_hampered ?_
      rw [answer_eq_serve id]
      exact keeps_format_scratch.apply idle

/-- To tell what paths name moves no device. -/
theorem Course.devices_of_told {world later : World Backend τ}
    {early : List Exchange} (told : OnlyTold early)
    (course : Course world early later) : later.devices = world.devices := by
  have still (exchange : Exchange) (member : exchange ∈ early) :
      Keeps (fun other : World Backend τ => other.devices = world.devices)
        (World.call exchange.driver exchange.request) := by
    obtain ⟨driver, path, answer, rfl⟩ := told exchange member
    refine ensures_worldCall (fun _ same _ => same)
      fun other site same found => ?_
    refine ((retiring_idle.stat path site).apply rfl).imp ?_ ?_
    all_goals
      rintro _ _ rfl
      rw [putSite_self found]
      exact same
  exact course.holds (fun _ _ same => same) still rfl

/-- A volume can be mounted on a device. -/
def MountsOn (volume : Volume) (device : τ) : Prop :=
  ∃ events left, Volume.mount.run ⟨volume, ⟨device, events⟩⟩
    = .done () left

theorem meets_mount_undisturbed (volume : Volume) (probe : Probe τ)
    (events : List Event) :
    Meets (fun _ left => Undisturbed probe left.medium.device)
      (fun _ left => ¬ MountsOn volume probe
        ∧ Undisturbed probe left.medium.device)
      ((Volume.serve .mount).run
        (⟨volume, ⟨probe, events⟩⟩ : Site Volume (Probe τ))) := by
  show Meets _ _ (Volume.mount.run _)
  cases ending : Volume.mount.run
      (⟨volume, ⟨probe, events⟩⟩ : Site Volume (Probe τ)) with
  | done value left =>
    exact undisturbed_of_mount (congrArg Ending.after? ending)
  | refused fault left =>
    refine ⟨?_, undisturbed_of_mount (congrArg Ending.after? ending)⟩
    rintro ⟨_, _, mounts⟩
    obtain ⟨_, again⟩ := mounts_of_mounts mounts events
    cases again.symm.trans ending
  | stopped trap => trivial

/-- The device with this number is there, and has been undisturbed since
then. -/
def OnlyRead (number : DeviceId) (probe : Probe τ)
    (world : World Backend (Probe τ)) : Prop :=
  ∃ changed, world.devices[number]? = some changed
    ∧ Undisturbed probe changed

/-- A volume that is asked to mount only reads its device, and does not refuse
if it can be mounted. -/
theorem ensures_call_onlyRead {driver : DriverId} {volume : Volume}
    {device : DeviceId} {probe : Probe τ} :
    Ensures (fun world : World Backend (Probe τ) =>
        world.drivers[driver]? = some ⟨.volume volume, device⟩
          ∧ world.devices[device]? = some probe)
      (World.call driver .mount) (fun _ => OnlyRead device probe)
      (fun _ world => ¬ MountsOn volume probe
        ∧ OnlyRead device probe world) := by
  have site? {world : World Backend (Probe τ)}
      (isDriver : world.drivers[driver]? = some ⟨.volume volume, device⟩)
      (isThere : world.devices[device]? = some probe) :
      world.site? driver = some ⟨.volume volume, ⟨probe, world.events⟩⟩ :=
    site?_eq_some_iff.mpr ⟨device, isDriver, isThere, rfl⟩
  refine ensures_worldCall ?_ ?_
  · rintro world ⟨isDriver, isThere⟩ none
    cases none.symm.trans (site? isDriver isThere)
  · rintro world _ ⟨isDriver, isThere⟩ found
    cases found.symm.trans (site? isDriver isThere)
    have inside := (List.getElem?_eq_some_iff.mp isThere).1
    have left (site : Site Backend (Probe τ)) :
        (World.putSite driver site world).devices[device]?
          = some site.medium.device := by
      simp only [World.putSite, isDriver]
      exact List.getElem?_set_self inside
    refine meets_hosting volume Backend.volume
      ((meets_mount_undisturbed volume probe world.events).imp ?_ ?_)
    · exact fun _ _ undisturbed => ⟨_, left _, undisturbed⟩
    · exact fun _ _ known => ⟨known.1, _, left _, known.2⟩

/-- The first attempt. -/
theorem onlyRead_of_first {world later : World Backend (Probe τ)}
    {volume : Volume} {device : DeviceId} {probe : Probe τ}
    {answer : Except Fault Unit}
    (isThere : world.devices[device]? = some probe)
    (course : Course (adding (.volume volume) device world)
      [⟨world.drivers.length, .mount, answer⟩] later) :
    (MountsOn volume probe → answer = .ok ())
      ∧ OnlyRead device probe later := by
  have isDriver : (adding (.volume volume) device world).drivers[
      world.drivers.length]? = some ⟨.volume volume, device⟩ :=
    List.getElem?_concat_length
  obtain ⟨left, events, rfl, onOk, onError⟩ :=
    course.of_one ensures_call_onlyRead fun _ => ⟨isDriver, isThere⟩
  cases answer with
  | ok value => exact ⟨fun _ => rfl, onOk value rfl⟩
  | error fault =>
    obtain ⟨none, read⟩ := onError fault rfl
    exact ⟨fun mounts => absurd mounts none, read⟩

/-- All that is asked after the driver is made is asked of it. -/
theorem Attempts.driver_eq {driver : DriverId} {autoFormat : Bool}
    {tried : List Exchange} {answer : Except Fault Unit}
    (attempts : Attempts driver autoFormat tried answer) :
    ∀ exchange ∈ tried, exchange.driver = driver := by
  cases attempts <;> simp

/-- A driver on another device leaves this one alone. -/
theorem keeps_elsewhere {driver : DriverId} {device number : DeviceId}
    (different : number ≠ device) (known : Option τ)
    (request : Request α) :
    Keeps (fun world : World Backend τ => deviceOf world driver = some device
        ∧ world.devices[number]? = known)
      (World.call driver request) := by
  refine ensures_worldCall (fun _ kept _ => kept) ?_
  rintro world site ⟨on, same⟩ found
  have elsewhere (left : Site Backend τ) :
      deviceOf (World.putSite driver left world) driver = some device
        ∧ (World.putSite driver left world).devices[number]? = known := by
    refine ⟨(deviceOf_putSite found left driver).trans on, ?_⟩
    obtain ⟨other, isThere, _⟩ := site?_eq_some_iff.mp found
    rw [deviceOf, isThere] at on
    obtain rfl : other = device := Option.some.inj on
    simp only [World.putSite, isThere]
    rw [List.getElem?_set_ne (Ne.symm different)]
    exact same
  exact meets_of_forall _ (fun _ => elsewhere) (fun _ => elsewhere)

/-- A device that can be mounted is only read, and so are all others. -/
theorem Attempted.onlyRead {space : NameSpace Backend (Probe τ)}
    {fsType : String} {device number : DeviceId} {autoFormat : Bool}
    {volume : Volume} {early tried : List Exchange}
    {between later : World Backend (Probe τ)} {answer : Except Fault Unit}
    {probe : Probe τ}
    (attempted : Attempted space fsType device autoFormat (.volume volume)
      early tried between later answer)
    (isThere : space.world.devices[number]? = some probe)
    (mounts : number = device → autoFormat = true →
      MountsOn volume probe) :
    OnlyRead number probe later := by
  obtain ⟨⟨_, told, looked⟩, attempts, asked, _⟩ := attempted
  rw [← looked.devices_of_told told] at isThere
  rw [← looked.length_drivers] at attempts
  by_cases same : number = device
  · subst same
    cases attempts with
    | mounted | refused => exact (onlyRead_of_first isThere asked).2
    -- The first attempt would have been the last.
    | unformatted | formatted =>
      obtain ⟨_, first⟩ := @Course.of_append _ _ _ _ _ [_] _ asked
      cases (onlyRead_of_first isThere first).1 (mounts rfl rfl)
  · have on : deviceOf (adding (.volume volume) device between)
        between.drivers.length = some device := by
      rw [deviceOf, adding, List.getElem?_concat_length]
      rfl
    have elsewhere (exchange : Exchange) (member : exchange ∈ tried) :
        Keeps (fun world : World Backend (Probe τ) =>
            deviceOf world between.drivers.length = some device
              ∧ world.devices[number]? = some probe)
          (World.call exchange.driver exchange.request) := by
      rw [attempts.driver_eq exchange member]
      exact keeps_elsewhere same _ _
    exact ⟨probe, (asked.holds (fun _ _ kept => kept) elsewhere
      ⟨on, isThere⟩).2, .refl probe⟩

/-- Of a volume that is mounted nothing is written, unless its device cannot
be mounted and may be formatted. -/
theorem onlyRead_of_mounting {space after : NameSpace Backend (Probe τ)}
    {path fsType : String} {device number : DeviceId} {autoFormat : Bool}
    {volume : Volume} {probe : Probe τ}
    (created : space.registry.create fsType = .ok (.volume volume))
    (left : ((mount path device fsType autoFormat).run space).after?
      = some after)
    (isThere : space.world.devices[number]? = some probe)
    (mounts : number = device → autoFormat = true →
      MountsOn volume probe) :
    OnlyRead number probe after.world := by
  have attempt {answer : Except Fault Unit}
      (attempted : ∃ fresh early tried between, Attempted space fsType device
        autoFormat fresh early tried between after.world answer) :
      OnlyRead number probe after.world := by
    obtain ⟨fresh, early, tried, between, attempted⟩ := attempted
    cases created.symm.trans attempted.prepared.created
    exact attempted.onlyRead isThere mounts
  have isIdle (fresh : Backend)
      (_ : space.registry.create fsType = .ok fresh) : True := trivial
  have ends := ensures_mount_attempted readies_true isIdle path device
    autoFormat space rfl
  cases ending : (mount path device fsType autoFormat).run space with
  | done value final =>
    rw [ending] at ends left
    cases left
    exact attempt ends.attempted
  | refused fault final =>
    rw [ending] at ends left
    cases left
    obtain ⟨early, told, course⟩ | attempted := ends.attempted
    · exact ⟨probe, course.devices_of_told told ▸ isThere, .refl probe⟩
    · exact attempt attempted
  | stopped trap =>
    rw [ending] at left
    cases left

end

/-- Mounting is done with one mount more, at the path, whose driver is mounted,
or it is refused and nothing has changed but the world, where the driver that
has been made, if any, is not mounted. This is so for all drivers that stay
unmounted when they refuse to mount, as volumes and scratch volumes do. The
driver is formatted at most once, after it has refused to mount and only if it
may be. So of a device that can be mounted as a volume nothing is erased and
to it nothing is written, and neither is anything to other devices. -/
theorem mounts_or_nothing {idle ready : δ → Prop}
    {space : NameSpace δ σ} {fsType : String}
    (readies : Readies σ idle ready)
    (isIdle : ∀ fresh, space.registry.create fsType = .ok fresh →
      idle fresh)
    (path : String) (device : DeviceId) (autoFormat : Bool) :
    Meets
      (fun _ after => OneMore ready space path fsType device autoFormat after)
      (fun fault after =>
        NoMore idle space fsType device autoFormat fault after)
      ((NameSpace.run (.mount path device fsType autoFormat)).run space)
    ∧ (∀ (τ : Type) [BlockDevice τ],
        Readies τ (fun driver : Backend => ¬ IsMounted driver) IsMounted)
    ∧ ∀ (τ : Type) [BlockDevice τ] (space after : NameSpace Backend (Probe τ))
        (path fsType : String) (device : DeviceId) (autoFormat : Bool)
        (volume : Volume),
      space.registry.create fsType = .ok (.volume volume) →
      ((NameSpace.run (.mount path device fsType autoFormat)).run
        space).after? = some after →
      ∀ (number : DeviceId) (probe : Probe τ),
        space.world.devices[number]? = some probe →
        (number = device → autoFormat = true → MountsOn volume probe) →
        OnlyRead number probe after.world :=
  ⟨ensures_mount_attempted readies isIdle path device autoFormat space rfl,
    fun _ => readies_backend,
    fun _ _ _ _ _ _ _ _ _ created left _ _ isThere mounts =>
      onlyRead_of_mounting created left isThere mounts⟩

/-- A name space whose only device has been formatted, and is mounted no
more. -/
def formatted : Option (NameSpace Backend (Probe RamDisk)) :=
  afterAll
    [.register "blockfs" .freshVolume, .mount "/" 0 "blockfs" true,
      .unmount "/"]
    { (NameSpace.empty 16 : NameSpace Backend (Probe RamDisk)) with
      world := ⟨[⟨⟨128, 32, ∅⟩, {}, []⟩], [], []⟩ }

/-- The second driver would be a new volume, and its mount the only one. -/
def isVacant (space : NameSpace Backend (Probe RamDisk)) : Bool :=
  space.registry.create "blockfs" = .ok .freshVolume ∧ space.mounts = []
    ∧ space.directory = "/" ∧ space.world.drivers.length = 1

/-- How a new volume answers when it is mounted on the device. -/
def replyOn (probe : Probe RamDisk) : Option (Except Fault Unit) :=
  (Volume.mount.run ⟨.fresh, ⟨probe, []⟩⟩ :
    Ending (Site Volume (Probe RamDisk)) Unit).reply?

/-- The device can be mounted, and so it may be formatted and is not. -/
theorem mounts_or_nothing_sample :
    ∃ (space after : NameSpace Backend (Probe RamDisk))
        (probe : Probe RamDisk),
      (NameSpace.run (.mount "/" 0 "blockfs" true)).run space
        = .done () after
      ∧ after.mounts = [⟨"/", "blockfs", 1⟩]
      ∧ Serves IsMounted after.world 1
      ∧ space.world.devices[0]? = some probe
      ∧ OnlyRead 0 probe after.world := by
  have shape : (formatted.map fun space =>
        (isVacant space, space.world.devices[0]?.map replyOn,
          ((mount "/" 0 "blockfs" true).run space).reply?))
      = some (true, some (some (.ok ())), some (.ok ())) := by
    decide +kernel
  obtain ⟨space, _, shape⟩ := Option.map_eq_some_iff.mp shape
  obtain ⟨vacant, shape⟩ := Prod.mk.inj shape
  obtain ⟨device, answer⟩ := Prod.mk.inj shape
  obtain ⟨created, mounts, directory, length⟩ := of_decide_eq_true vacant
  obtain ⟨probe, isThere, mounted⟩ := Option.map_eq_some_iff.mp device
  obtain ⟨left, mounted⟩ := eq_done_of_reply? mounted
  obtain ⟨after, run⟩ := eq_done_of_reply? answer
  have isIdle (fresh : Backend)
      (same : space.registry.create "blockfs" = .ok fresh) :
      ¬ IsMounted fresh := by
    cases created.symm.trans same
    exact Bool.false_ne_true
  obtain ⟨ends, _, spares⟩ :=
    mounts_or_nothing readies_backend isIdle "/" 0 true
  have final : ((NameSpace.run (.mount "/" 0 "blockfs" true)).run space).after?
      = some after := congrArg Ending.after? run
  have read := spares RamDisk space after "/" "blockfs" 0 true .fresh created
    final 0 probe isThere fun _ _ => ⟨[], left, mounted⟩
  have one : OneMore IsMounted space "/" "blockfs" 0 true after := by
    have ran : (NameSpace.run (.mount "/" 0 "blockfs" true)).run space
        = .done () after := run
    rw [ran] at ends
    exact ends
  obtain ⟨before, later, split, entered⟩ := one.entered
  rw [mounts] at split
  obtain ⟨rfl, rfl⟩ := List.append_eq_nil_iff.mp split.symm
  rw [directory, length] at entered
  refine ⟨space, after, probe, run, ?_, ?_, isThere, read⟩
  · rw [entered]
    rfl
  · exact length ▸ one.serves

end MountSpace.Proofs.NameSpaces
