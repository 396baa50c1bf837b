import MountSpace.Proofs.NameSpaces.Descriptors
import MountSpace.Proofs.NameSpaces.Opening
import MountSpace.Proofs.NameSpaces.Serving

/-!
# `MountSpace.Proofs.NameSpaces.Backing`: drivers behind descriptors

A descriptor leads to the driver that has opened its file, and still does
when that driver is behind no mount any more. By then its device may be
behind another mount, with another driver. This does no harm: a driver that
has been unmounted knows no files, and leaves its device alone when it is
asked about them.

* `Retiring`: drivers that are idle when they have been unmounted.
* `Backed`: descriptors lead to drivers behind mounts, or to idle ones.
* `backed_of_reachable`: that holds of every name space in use.
-/

set_option autoImplicit false

namespace MountSpace.Proofs.NameSpaces

open Effects
open MountSpace.NameSpace
open Routing (mem_of_find)
open Volumes (AboutFiles)

variable {δ σ α : Type}

/-- What is asked of drivers. One that has been unmounted is idle, and then
nothing that it is asked about files changes it or its device. What a path
names can always be told without a change. -/
structure Retiring (σ : Type) [Driver δ σ] (idle : δ → Prop) : Prop where
  unmount : Ensures (fun _ : Site δ σ => True) (Driver.serve .unmount)
    (fun _ site => idle site.driver) (fun _ site => idle site.driver)
  still {α : Type} {request : Request α} (files : AboutFiles request)
    {site : Site δ σ} : idle site.driver →
    Keeps (fun left => left = site) (Driver.serve request)
  stat (path : String) (site : Site δ σ) :
    Keeps (fun left => left = site) (Driver.serve (.stat path))

/-- A driver is behind a mount, or idle. -/
def Backs (idle : δ → Prop) (space : NameSpace δ σ) (driver : DriverId) :
    Prop :=
  driver ∈ space.mounts.map Mount.driver ∨ Serves idle space.world driver

/-- Descriptors lead to drivers behind mounts, or to idle ones. -/
structure Backed (idle : δ → Prop) (space : NameSpace δ σ) : Prop where
  serving : Serving (fun _ => True) space
  backs {descriptor : Nat} {opened : OpenFile DriverId} :
    space.descriptors.get descriptor = .ok opened →
    Backs idle space opened.driver

/-- The same, and this driver is behind no mount or descriptor. -/
structure BackedAside (idle : δ → Prop) (driver : DriverId)
    (space : NameSpace δ σ) : Prop where
  backed : Backed idle space
  spare : driver ∉ space.mounts.map Mount.driver
  unheld {descriptor : Nat} {opened : OpenFile DriverId} :
    space.descriptors.get descriptor = .ok opened → opened.driver ≠ driver

/-- This driver is behind no mount any more, but may be behind
descriptors. -/
structure BackedRetired (idle : δ → Prop) (driver : DriverId)
    (space : NameSpace δ σ) : Prop where
  aside : Aside (fun _ => True) driver space
  serves : Serves (fun _ => True) space.world driver
  backs {descriptor : Nat} {opened : OpenFile DriverId} :
    space.descriptors.get descriptor = .ok opened →
    opened.driver = driver ∨ Backs idle space opened.driver

section

variable {idle : δ → Prop} {space : NameSpace δ σ}
  {driver other : DriverId} {site left : Site δ σ}

/-- It does not matter what a driver does as long as it stays idle if it
was so. -/
theorem Backs.putSite (backs : Backs idle space other)
    (found : space.world.site? driver = some site)
    (still : other = driver → idle site.driver → idle left.driver) :
    Backs idle
      { space with world := World.putSite driver left space.world }
      other := by
  refine backs.imp id fun serves => ?_
  by_cases same : other = driver
  · subst same
    exact serves_putSite found (still rfl (serves.of_site? found))
  · exact serves.putSite same left

theorem Backs.extends (backs : Backs idle space other)
    {world : World δ σ} (grown : Extends space.world world) :
    Backs idle { space with world } other :=
  backs.imp id fun serves => serves.extends grown

/-- A driver that is there is among those that were added. -/
theorem Backs.lt_length (serving : Serving (fun _ => True) space)
    (backs : Backs idle space driver) :
    driver < space.world.drivers.length := by
  obtain member | ⟨_, found, _⟩ := backs
  · obtain ⟨mount, isMount, rfl⟩ := List.mem_map.mp member
    obtain ⟨_, found, _⟩ := serving.serves mount isMount
    exact (List.getElem?_eq_some_iff.mp found).1
  · exact (List.getElem?_eq_some_iff.mp found).1

theorem indifferent_backed :
    Indifferent (Backed idle : NameSpace δ σ → Prop) := by
  intro space other alike backed
  refine ⟨indifferent_serving _ _ alike backed.serving, fun held => ?_⟩
  rw [alike.descriptors] at held
  refine (backed.backs held).imp (fun member => ?_)
    fun serves => serves.alike alike
  rw [alike.mounts]
  exact member

theorem Backed.putSite (backed : Backed idle space)
    (found : space.world.site? driver = some site)
    (still : idle site.driver → idle left.driver) :
    Backed idle
      { space with world := World.putSite driver left space.world } :=
  ⟨backed.serving.putSite found fun had => had,
    fun held => (backed.backs held).putSite found fun _ => still⟩

theorem Backed.outside (backed : Backed idle space) {world : World δ σ}
    (grown : Extends space.world world) :
    Backed idle { space with world } :=
  ⟨backed.serving.congr rfl fun _ serves => serves.extends grown,
    fun held => (backed.backs held).extends grown⟩

/-- No descriptor leads to the driver, so it can do what it likes. -/
theorem BackedAside.putSite (aside : BackedAside idle driver space)
    (found : space.world.site? driver = some site) (left : Site δ σ) :
    BackedAside idle driver
      { space with world := World.putSite driver left space.world } := by
  refine ⟨⟨aside.backed.serving.putSite found fun had => had,
    fun held => ?_⟩, aside.spare, aside.unheld⟩
  exact (aside.backed.backs held).putSite found fun same =>
    absurd same (aside.unheld held)

/-! ### Parts of commands -/

variable [Driver δ σ]

/-- Drivers can be asked about files. -/
theorem keeps_call_backed (retiring : Retiring σ idle)
    {request : Request α} (files : AboutFiles request) :
    Keeps (Backed idle : NameSpace δ σ → Prop) (call driver request) := by
  refine ensures_call (fun _ backed _ => backed) ?_
  intro space site backed found
  -- An idle driver is not changed at all, and of others nothing is asked.
  by_cases isIdle : idle site.driver
  · refine ((retiring.still files isIdle).apply rfl).imp ?_ ?_
    · rintro _ left rfl
      exact backed.putSite found fun was => was
    · rintro _ left rfl
      exact backed.putSite found fun was => was
  · exact meets_of_forall _
      (fun _ _ => backed.putSite found fun was => absurd was isIdle)
      (fun _ _ => backed.putSite found fun was => absurd was isIdle)

theorem calm_backed (retiring : Retiring σ idle) :
    Calm Scope.whole (Backed idle : NameSpace δ σ → Prop) where
  note := indifferent_backed.note
  ask _ passing := keeps_call_backed retiring passing.aboutFiles
  route _ _ _ _ _ _ := trivial
  hold _ _ _ _ _ := trivial

/-- The driver that has opened a file is behind a mount. -/
theorem ensures_begin_backed (retiring : Retiring σ idle)
    (path mode : String) (permissions : UInt32) :
    Ensures (Backed idle : NameSpace δ σ → Prop)
      (begin path mode permissions)
      (fun opened space =>
        Backs idle space opened.driver ∧ Backed idle space)
      (fun _ => Backed idle) := by
  refine ensures_bind (keeps_ofExcept _) fun flags => ?_
  refine ensures_bind (ensures_lookup_mounted indifferent_backed.note
    path) ?_
  rintro ⟨mount, rest⟩
  -- The mount is still there when the file has been opened.
  have routes : OnlyRoutes fun space : NameSpace δ σ =>
      mount.driver ∈ space.mounts.map Mount.driver := by
    intro space other mounts _ member
    show _ ∈ other.mounts.map Mount.driver
    rw [mounts]
    exact member
  have asks : Keeps (Backed idle : NameSpace δ σ → Prop)
      (call mount.driver (.openFile rest flags permissions)) :=
    keeps_call_backed retiring trivial
  have opens := (keeps_call routes _ _).and asks
  refine ensures_bind (opens.refusing fun _ _ known => known.2)
    fun file => ?_
  exact fun _ known => ⟨.inl known.1, known.2⟩

/-- A file that gets a descriptor has its driver behind it. -/
theorem ensures_settle_backed (retiring : Retiring σ idle)
    (opened : OpenFile DriverId) :
    Ensures
      (fun space : NameSpace δ σ =>
        Backs idle space opened.driver ∧ Backed idle space)
      (settle opened) (fun _ => Backed idle) (fun _ => Backed idle) := by
  have gives : Ensures
      (fun space : NameSpace δ σ =>
        Backs idle space opened.driver ∧ Backed idle space)
      (inDescriptors (DescriptorTable.alloc opened))
      (fun _ => Backed idle)
      (fun _ space =>
        Backs idle space opened.driver ∧ Backed idle space) := by
    refine ensures_within fun space ⟨backs, backed⟩ => ?_
    refine (meets_alloc space.descriptors opened).imp ?_ ?_
    · intro descriptor after adds
      refine ⟨backed.serving.descriptors after,
        fun {other file} held => ?_⟩
      rw [adds.get] at held
      split at held
      · cases held
        exact backs
      · exact backed.backs held
    · rintro fault after ⟨_, _, same⟩
      exact ⟨backs, backed.serving.descriptors after, fun held =>
        backed.backs ((same _).symm.trans held)⟩
  have drops : Keeps (Backed idle : NameSpace δ σ → Prop)
      (call opened.driver (.close opened.file)) :=
    keeps_call_backed retiring trivial
  exact ensures_settle_of gives (drops.imp (fun _ known => known.2)
    (fun _ _ backed => backed) (fun _ _ backed => backed))
    indifferent_backed.note

theorem keeps_close_backed (retiring : Retiring σ idle)
    (descriptor : Nat) :
    Keeps (Backed idle : NameSpace δ σ → Prop) (close descriptor) := by
  have frees : Keeps (Backed idle)
      (inDescriptors (DescriptorTable.close descriptor) :
        Action (NameSpace δ σ) (OpenFile DriverId)) := by
    refine ensures_within fun space backed => ?_
    refine (meets_close space.descriptors descriptor).imp ?_ ?_
    · rintro opened after ⟨_, drops⟩
      refine ⟨backed.serving.descriptors after,
        fun {other file} held => ?_⟩
      rw [drops.get] at held
      split at held
      · cases held
      · exact backed.backs held
    · rintro fault _ ⟨_, rfl⟩
      exact backed
  exact ensures_close_of frees
    (fun _ => keeps_call_backed retiring trivial) indifferent_backed.note

/-! ### Mounting and unmounting -/

omit [Driver δ σ] in
/-- No descriptor leads to a driver that has just been added. -/
theorem ensures_build_backed (fsType : String) (device : DeviceId) :
    Ensures (Backed idle : NameSpace δ σ → Prop) (build fsType device)
      (BackedAside idle) (fun _ => Backed idle) := by
  refine ensures_bind keeps_get fun _ => ?_
  refine ensures_bind (keeps_ofExcept _) fun fresh => ?_
  refine ensures_within fun space backed => ?_
  have grown : Extends space.world { space.world with
      drivers := space.world.drivers ++ [⟨fresh, device⟩] } :=
    ⟨Nat.le_refl _, List.prefix_append _ _⟩
  -- Drivers behind mounts and descriptors have smaller numbers.
  refine ⟨backed.outside grown, fun member => ?_, fun held => ?_⟩
  · have inside := Backs.lt_length backed.serving
      (.inl member : Backs idle space space.world.drivers.length)
    exact Nat.lt_irrefl _ inside
  · exact Nat.ne_of_lt ((backed.backs held).lt_length backed.serving)

theorem mounting_backed (device : DeviceId) :
    Mounting device (Backed idle : NameSpace δ σ → Prop)
      (BackedAside idle)
      (fun driver space => BackedAside idle driver space
        ∧ Serves (fun _ => True) space.world driver)
      (Backed idle) where
  early backed := backed
  given aside := aside.backed
  build fsType := ensures_build_backed fsType device
  noteAside driver event := fun _ aside =>
    ⟨indifferent_backed.events aside.backed _, aside.spare, aside.unheld⟩
  format driver := by
    refine ensures_call (fun _ aside _ => aside) ?_
    intro space site aside found
    exact meets_of_forall _ (fun _ left => aside.putSite found left)
      (fun _ left => aside.putSite found left)
  mount driver := by
    refine ensures_call (fun _ aside _ => aside) ?_
    intro space site aside found
    exact meets_of_forall _
      (fun _ left => ⟨aside.putSite found left, serves_putSite found trivial⟩)
      (fun _ left => aside.putSite found left)
  enter path fsType driver := by
    rintro space ⟨aside, serves⟩
    refine ((ensures_enter_serving path fsType driver).apply
      ⟨⟨aside.backed.serving, aside.spare⟩, serves⟩).and
      ((ensures_enter_perm ⟨path, fsType, driver⟩ space).apply rfl) |>.imp
      ?_ ?_
    · rintro _ _ ⟨serving, mounts, perm, rfl⟩
      refine ⟨serving, fun held => (aside.backed.backs held).imp ?_ id⟩
      intro member
      exact (perm.map Mount.driver).mem_iff.mpr
        (List.mem_cons_of_mem _ member)
    · rintro _ _ ⟨_, rfl⟩
      exact aside.backed
  noteAfter := indifferent_backed.note

/-- A driver that is unmounted is idle from then on. -/
theorem unmounting_backed (retiring : Retiring σ idle) :
    Unmounting (fun _ => (Backed idle : NameSpace δ σ → Prop))
      (BackedRetired idle) (Backed idle) where
  withdraw path := by
    intro space backed
    refine ((ensures_withdraw path).apply backed.serving).and
      ((ensures_withdraw_perm path space).apply rfl) |>.imp ?_ ?_
    · rintro mount _ ⟨aside, mounts, perm, rfl⟩
      have first : mount ∈ space.mounts :=
        perm.mem_iff.mpr List.mem_cons_self
      refine ⟨aside, backed.serving.serves mount first, fun held => ?_⟩
      -- What was behind a mount still is, if not behind this one.
      obtain member | serves := backed.backs held
      · cases List.mem_cons.mp
          ((perm.map Mount.driver).mem_iff.mp member) with
        | inl same => exact .inl same
        | inr member => exact .inr (.inl member)
      · exact .inr (.inr serves)
    · rintro _ _ ⟨_, rfl⟩
      exact backed
  noteRetired driver event := fun _ retired =>
    ⟨⟨indifferent_serving.events retired.aside.serving _,
      retired.aside.spare⟩, retired.serves, retired.backs⟩
  unmount driver := by
    refine ensures_call ?_ ?_
    · intro space retired missing
      obtain ⟨site, found, _⟩ := retired.serves.site?
      cases missing.symm.trans found
    · intro space site retired found
      have step (left : Site δ σ) (isIdle : idle left.driver) :
          Backed idle { space with
            world := World.putSite driver left space.world } := by
        refine ⟨(retired.aside.putSite left).serving, fun held => ?_⟩
        obtain same | backs := retired.backs held
        · rw [same]
          exact .inr (serves_putSite found isIdle)
        · exact backs.putSite found fun _ _ => isIdle
      exact (retiring.unmount.apply trivial).imp (fun _ => step)
        (fun _ => step)
  noteAfter := indifferent_backed.note

/-! ### Commands -/

/-- Every command leaves drivers behind descriptors as they have to be. -/
theorem keeps_run_backed (retiring : Retiring σ idle)
    (command : Command δ α) :
    Keeps (Backed idle : NameSpace δ σ → Prop) (run command) := by
  have calm : Calm Scope.whole (Backed idle : NameSpace δ σ → Prop) :=
    calm_backed retiring
  have closes (descriptor : Nat) :
      Keeps (Backed idle : NameSpace δ σ → Prop) (close descriptor) :=
    keeps_close_backed retiring descriptor
  refine keeps_run_of_mounting indifferent_backed calm mounting_backed
    (unmounting_backed retiring) command ?_
    (fun descriptor _ => closes descriptor)
  intro opening is
  have opens : Keeps (Backed idle : NameSpace δ σ → Prop)
      (openFile opening.path opening.mode opening.permissions) := by
    rw [openFile_eq]
    exact ensures_bind (ensures_begin_backed retiring _ _ _)
      (ensures_settle_backed retiring)
  exact ensures_run_of_opening opens (fun _ => calm) (fun _ => trivial)
    (fun _ => trivial) (fun _ _ backed => backed) closes is

/-- In a name space in use a descriptor leads to a driver behind a mount,
or to one that has nothing to do with its device any more. -/
theorem backed_of_reachable (retiring : Retiring σ idle)
    {others : World δ σ → World δ σ → Prop}
    (calm : ∀ world later, others world later → Extends world later)
    (reachable : Reachable others space) : Backed idle space := by
  refine reachable.holds ?_ ?_ (keeps_run_backed retiring)
  · intro descriptorLimit
    refine ⟨⟨List.nodup_nil, fun _ member => absurd member
      List.not_mem_nil⟩, fun held => ?_⟩
    cases (get_eq_error rfl).symm.trans held
  · exact fun space world backed change => backed.outside (calm _ _ change)

end

end MountSpace.Proofs.NameSpaces
