import MountSpace.Proofs.NameSpaces.Balance
import MountSpace.Proofs.NameSpaces.Opening
import MountSpace.Proofs.NameSpaces.Serving

/-!
# `MountSpace.Proofs.NameSpaces.Pairing`: descriptors and open files

In a name space in use the files that drivers behind mounts have open are
those of the descriptors, whatever has been refused on the way (`Paired`).

* `BookKeeping`: what is asked of drivers, one clause for each kind of
  request.
* `calm_paired`, `ensures_begin_paired`, `ensures_settle_paired`,
  `ensures_close_paired`: what the parts of commands keep.
* `Counted`: name spaces in use, and how many files their drivers have
  opened.
* `paired_of_counted`: all name spaces in use are paired.
-/

set_option autoImplicit false

namespace MountSpace.Proofs.NameSpaces

open Effects
open MountSpace.NameSpace
open Volumes (Passing)

variable {δ σ α : Type}

/-! ### Places -/

/-- Who holds a file: a descriptor, or nobody yet or any more. -/
def holderOf (pending : Option (OpenFile DriverId))
    (descriptors : DescriptorTable DriverId) :
    Option Nat → Option (OpenFile DriverId)
  | none => pending
  | some descriptor => (descriptors.get descriptor).toOption

section

variable {descriptors after : DescriptorTable DriverId} {descriptor : Nat}
  {opened : OpenFile DriverId}

theorem holderOf_some_eq_some_iff {pending : Option (OpenFile DriverId)} :
    holderOf pending descriptors (some descriptor) = some opened
      ↔ descriptors.get descriptor = .ok opened := by
  rw [holderOf]
  cases descriptors.get descriptor <;> simp [Except.toOption]

/-- When no file is on its way, what is held has a descriptor. -/
theorem held_holderOf_iff {driver : DriverId} {file : FileId} :
    Held (holderOf none descriptors) driver file
      ↔ ∃ descriptor opened, descriptors.get descriptor = .ok opened
        ∧ opened.driver = driver ∧ opened.file = file := by
  constructor
  · rintro ⟨_ | descriptor, opened, held, is⟩
    · cases held
    · exact ⟨descriptor, opened, holderOf_some_eq_some_iff.mp held, is⟩
  · rintro ⟨descriptor, opened, held, is⟩
    exact ⟨some descriptor, opened, holderOf_some_eq_some_iff.mpr held, is⟩

/-- A file on its way is at a place of its own. -/
theorem holderOf_pending (pending : Option (OpenFile DriverId)) :
    holderOf pending descriptors
      = Function.update (holderOf none descriptors) none pending := by
  funext place
  cases place with
  | none => rw [Function.update_self]; rfl
  | some descriptor =>
    rw [Function.update_of_ne (Option.some_ne_none descriptor)]
    rfl

/-- A file that gets a descriptor moves there. -/
theorem holderOf_adds (adds : Adds descriptors opened descriptor after)
    (place : Option Nat) :
    holderOf none after place = holderOf (some opened) descriptors
      (Equiv.swap none (some descriptor) place) := by
  cases place with
  | none =>
    rw [Equiv.swap_apply_left, holderOf, holderOf, adds.free]
    rfl
  | some other =>
    by_cases same : other = descriptor
    · subst same
      rw [Equiv.swap_apply_right, holderOf, holderOf, adds.get, if_pos rfl]
      rfl
    · rw [Equiv.swap_apply_of_ne_of_ne (Option.some_ne_none other)
        (fun is => same (Option.some.inj is)), holderOf, holderOf, adds.get,
        if_neg same]

/-- A file whose descriptor is freed moves away from there. -/
theorem holderOf_drops (held : descriptors.get descriptor = .ok opened)
    (drops : Drops descriptors descriptor after) (place : Option Nat) :
    holderOf (some opened) after place = holderOf none descriptors
      (Equiv.swap none (some descriptor) place) := by
  cases place with
  | none =>
    rw [Equiv.swap_apply_left, holderOf, holderOf, held]
    rfl
  | some other =>
    by_cases same : other = descriptor
    · subst same
      rw [Equiv.swap_apply_right, holderOf, holderOf, drops.get, if_pos rfl]
      rfl
    · rw [Equiv.swap_apply_of_ne_of_ne (Option.some_ne_none other)
        (fun is => same (Option.some.inj is)), holderOf, holderOf, drops.get,
        if_neg same]

/-- When the file is not on its way any more, descriptors are left. -/
theorem holderOf_settled (pending : Option (OpenFile DriverId)) :
    Function.update (holderOf pending descriptors) none none
      = holderOf none descriptors := by
  rw [holderOf_pending, Function.update_idem]
  exact Function.update_eq_self none _

/-- Tables that answer alike hold the same files. -/
theorem holderOf_congr {pending : Option (OpenFile DriverId)}
    (same : ∀ descriptor, after.get descriptor = descriptors.get descriptor) :
    holderOf pending after = holderOf pending descriptors := by
  funext place
  cases place with
  | none => rfl
  | some descriptor => rw [holderOf, holderOf, same]

/-- An empty table holds nothing. -/
theorem holderOf_empty (limit : Nat) (place : Option Nat) :
    holderOf none (DescriptorTable.empty limit) place = none := by
  cases place with
  | none => rfl
  | some descriptor =>
    rw [holderOf, get_eq_error rfl]
    rfl

end

/-! ### Drivers -/

/-- What is asked of drivers whose open files are known. They give numbers
out in order, and a file that could not be closed was not open. -/
structure BookKeeping (σ : Type) [Driver δ σ] (rules : Books δ) : Prop where
  kind {α : Type} (request : Request α) (site : Site δ σ) :
    Meets (fun _ left => rules.kept left.driver ↔ rules.kept site.driver)
      (fun _ left => rules.kept left.driver ↔ rules.kept site.driver)
      ((Driver.serve request).run site)
  mount (site : Site δ σ) :
    Meets (fun _ left => rules.kept left.driver →
        rules.tells left.driver .empty)
      (fun _ _ => True) ((Driver.serve .mount).run site)
  passing {α : Type} {request : Request α} (site : Site δ σ) :
    Passing request →
    Meets
      (fun _ left => ∀ ledger, rules.tells site.driver ledger →
        rules.tells left.driver ledger)
      (fun _ left => ∀ ledger, rules.tells site.driver ledger →
        rules.tells left.driver ledger)
      ((Driver.serve request).run site)
  openFile (path : String) (flags : OpenFlags) (permissions : UInt32)
    (site : Site δ σ) :
    Meets
      (fun file left => ∀ ledger, rules.tells site.driver ledger →
        file = ledger.next ∧ rules.tells left.driver ledger.opening)
      (fun _ left => ∀ ledger, rules.tells site.driver ledger →
        rules.tells left.driver ledger)
      ((Driver.serve (.openFile path flags permissions)).run site)
  close (file : FileId) (site : Site δ σ) :
    Meets
      (fun _ left => ∀ ledger, rules.tells site.driver ledger →
        rules.tells left.driver (ledger.closing file))
      (fun _ left => ∀ ledger, rules.tells site.driver ledger →
        rules.tells left.driver (ledger.closing file))
      ((Driver.serve (.close file)).run site)

/-! ### Name spaces -/

/-- The files that drivers behind mounts have open are those that are held:
by descriptors, and the one on its way. -/
structure Paired (rules : Books δ) (opens : DriverId → Nat)
    (pending : Option (OpenFile DriverId)) (space : NameSpace δ σ) :
    Prop where
  serving : Serving (fun _ => True) space
  balanced : Balanced rules opens (holderOf pending space.descriptors)
    (space.mounts.map Mount.driver) space.world.driver?

section

variable {rules : Books δ} {opens : DriverId → Nat}
  {pending : Option (OpenFile DriverId)} {space : NameSpace δ σ}
  {driver : DriverId} {site : Site δ σ}

theorem driver?_putSite (found : space.world.site? driver = some site)
    (left : Site δ σ) :
    (World.putSite driver left space.world).driver?
      = putDriver space.world.driver? driver left.driver := by
  funext other
  by_cases same : other = driver
  · subst same
    rw [driver?_putSite_self found, putDriver_self]
  · rw [driver?_putSite_of_ne same, putDriver_of_ne same]

theorem indifferent_paired :
    Indifferent (Paired rules opens pending : NameSpace δ σ → Prop) := by
  intro space other alike paired
  have drivers : other.world.driver? = space.world.driver? := by
    funext driver
    rw [World.driver?, World.driver?, alike.drivers]
  refine ⟨indifferent_serving _ _ alike paired.serving, ?_⟩
  rw [alike.mounts, alike.descriptors, drivers]
  exact paired.balanced

/-- A driver behind a mount is there with its device. -/
theorem Paired.site? (paired : Paired rules opens pending space)
    (member : driver ∈ space.mounts.map Mount.driver) :
    ∃ site, space.world.site? driver = some site := by
  obtain ⟨mount, isMount, rfl⟩ := List.mem_map.mp member
  obtain ⟨site, found, _⟩ := (paired.serving.serves mount isMount).site?
  exact ⟨site, found⟩

theorem becomes_of_site? {left : Site δ σ}
    (found : space.world.site? driver = some site)
    (kind : rules.kept left.driver ↔ rules.kept site.driver) :
    Becomes rules space.world.driver? driver site.driver left.driver :=
  ⟨driver?_of_site? found, kind⟩

/-- A driver that knows of the same files as before can be in any state. -/
theorem Paired.changed (paired : Paired rules opens pending space)
    {left : Site δ σ} (found : space.world.site? driver = some site)
    (kind : rules.kept left.driver ↔ rules.kept site.driver)
    (still : ∀ ledger, rules.tells site.driver ledger →
      rules.tells left.driver ledger) :
    Paired rules opens pending
      { space with world := World.putSite driver left space.world } := by
  refine ⟨paired.serving.putSite found fun had => had, ?_⟩
  show Balanced _ _ _ _ (World.putSite driver left space.world).driver?
  rw [driver?_putSite found]
  exact paired.balanced.changed (becomes_of_site? found kind) fun _ => still

/-- In an empty name space there is nothing to pair. -/
theorem paired_empty (descriptorLimit : Nat) :
    Paired rules (fun _ => 0) none
      (NameSpace.empty descriptorLimit : NameSpace δ σ) := by
  have unheld {place : Option Nat} {opened : OpenFile DriverId}
      (held : holderOf none (DescriptorTable.empty descriptorLimit) place
        = some opened) : False := by
    cases (holderOf_empty descriptorLimit place).symm.trans held
  refine ⟨⟨List.nodup_nil, fun _ member => absurd member
      List.not_mem_nil⟩, ?_⟩
  exact ⟨fun held => (unheld held).elim, fun _ => rfl,
    fun held => (unheld held).elim, fun held => (unheld held).elim,
    fun member => absurd member List.not_mem_nil⟩

theorem Paired.installed (paired : Paired rules opens pending space) :
    ∀ driver ∈ space.mounts.map Mount.driver,
      (space.world.driver? driver).isSome := by
  intro driver member
  obtain ⟨site, found⟩ := paired.site? member
  rw [driver?_of_site? found]
  rfl

/-- Others may add drivers and devices. -/
theorem Paired.outside (paired : Paired rules opens pending space)
    {world : World δ σ} (grown : Extends space.world world) :
    Paired rules opens pending { space with world } := by
  refine ⟨paired.serving.congr rfl fun _ serves => serves.extends grown,
    paired.balanced.added paired.installed fun driver isThere => ?_⟩
  exact grown.driver?_eq isThere

variable [Driver δ σ]

/-- Requests that open no file and close none are of no interest. -/
theorem keeps_call_paired (keeping : BookKeeping σ rules)
    {request : Request α} (passing : Passing request) :
    Keeps (Paired rules opens none : NameSpace δ σ → Prop)
      (call driver request) := by
  refine ensures_call (fun _ paired _ => paired) ?_
  intro space site paired found
  exact ((keeping.kind request site).and (keeping.passing site passing)).imp
    (fun _ _ known => paired.changed found known.1 known.2)
    (fun _ _ known => paired.changed found known.1 known.2)

theorem calm_paired (keeping : BookKeeping σ rules) :
    Calm Scope.whole
      (Paired rules opens none : NameSpace δ σ → Prop) where
  note := indifferent_paired.note
  ask _ := keeps_call_paired keeping
  route _ _ _ _ _ _ := trivial
  hold _ _ _ _ _ := trivial

/-! ### Opening and closing -/

/-- A file that is opened is on its way to a descriptor. -/
theorem ensures_begin_paired (keeping : BookKeeping σ rules)
    (path mode : String) (permissions : UInt32) :
    Ensures (Paired rules opens none : NameSpace δ σ → Prop)
      (begin path mode permissions)
      (fun opened => Paired rules
        (Function.update opens opened.driver (opens opened.driver + 1))
        (some opened))
      (fun _ => Paired rules opens none) := by
  refine ensures_bind (keeps_ofExcept _) fun flags => ?_
  refine ensures_bind (ensures_lookup_mounted indifferent_paired.note
    path) ?_
  rintro ⟨mount, rest⟩
  have opening : Ensures
      (fun space : NameSpace δ σ =>
        mount.driver ∈ space.mounts.map Mount.driver
          ∧ Paired rules opens none space)
      (call mount.driver (.openFile rest flags permissions))
      (fun file => Paired rules
        (Function.update opens mount.driver (opens mount.driver + 1))
        (some ⟨file, mount.driver, mount.path⟩))
      (fun _ => Paired rules opens none) := by
    refine ensures_call (fun _ start _ => start.2) ?_
    intro space site ⟨member, paired⟩ found
    refine ((keeping.kind _ site).and
      (keeping.openFile rest flags permissions site)).imp ?_ ?_
    · rintro file left ⟨kind, tells⟩
      refine ⟨paired.serving.putSite found fun had => had, ?_⟩
      show Balanced _ _ _ _ (World.putSite mount.driver left _).driver?
      rw [driver?_putSite found, holderOf_pending]
      have becomes := becomes_of_site? found kind
      exact paired.balanced.opening ⟨file, mount.driver, mount.path⟩
        becomes member rfl tells
    · rintro fault left ⟨kind, tells⟩
      exact paired.changed found kind tells
  exact ensures_bind opening fun file _ paired => paired

/-- A driver closes a file that no descriptor leads to, and knows of it no
more even if it refuses. -/
theorem ensures_drop_paired (keeping : BookKeeping σ rules)
    (opened : OpenFile DriverId) :
    Ensures (Paired rules opens (some opened) : NameSpace δ σ → Prop)
      (call opened.driver (.close opened.file))
      (fun _ => Paired rules opens none)
      (fun _ => Paired rules opens none) := by
  refine ensures_call ?_ ?_
  -- A driver that is gone cannot be asked, but then it is behind no mount.
  · intro space paired missing
    have unmounted :
        opened.driver ∉ space.mounts.map Mount.driver := by
      intro member
      obtain ⟨site, found⟩ := paired.site? member
      cases missing.symm.trans found
    refine ⟨paired.serving, ?_⟩
    rw [← holderOf_settled (some opened)]
    exact paired.balanced.dropping rfl unmounted
  · intro space site paired found
    have step (left : Site δ σ)
        (kind : rules.kept left.driver ↔ rules.kept site.driver)
        (tells : ∀ ledger, rules.tells site.driver ledger →
          rules.tells left.driver (ledger.closing opened.file)) :
        Paired rules opens none { space with
          world := World.putSite opened.driver left space.world } := by
      refine ⟨paired.serving.putSite found fun had => had, ?_⟩
      show Balanced _ _ _ _ (World.putSite _ left space.world).driver?
      rw [driver?_putSite found, ← holderOf_settled (some opened)]
      exact paired.balanced.closing (becomes_of_site? found kind) rfl
        fun _ => tells
    exact ((keeping.kind _ site).and (keeping.close opened.file site)).imp
      (fun _ left known => step left known.1 known.2)
      (fun _ left known => step left known.1 known.2)

/-- A file gets a descriptor, or is closed again. -/
theorem ensures_settle_paired (keeping : BookKeeping σ rules)
    (opened : OpenFile DriverId) :
    Ensures (Paired rules opens (some opened) : NameSpace δ σ → Prop)
      (settle opened) (fun _ => Paired rules opens none)
      (fun _ => Paired rules opens none) := by
  have gives : Ensures (Paired rules opens (some opened))
      (inDescriptors (DescriptorTable.alloc opened) :
        Action (NameSpace δ σ) Nat)
      (fun _ => Paired rules opens none)
      (fun _ => Paired rules opens (some opened)) := by
    refine ensures_within fun space paired => ?_
    refine (meets_alloc space.descriptors opened).imp ?_ ?_
    -- The file moves from its way to the descriptor.
    · intro descriptor after adds
      exact ⟨paired.serving.descriptors after,
        paired.balanced.moved _ (holderOf_adds adds)⟩
    · rintro fault after ⟨_, _, same⟩
      refine ⟨paired.serving.descriptors after, ?_⟩
      show Balanced _ _ (holderOf _ after) _ _
      rw [holderOf_congr same]
      exact paired.balanced
  exact ensures_settle_of gives (ensures_drop_paired keeping opened)
    indifferent_paired.note

/-- A descriptor and its file go together. -/
theorem keeps_close_paired (keeping : BookKeeping σ rules)
    (descriptor : Nat) :
    Keeps (Paired rules opens none : NameSpace δ σ → Prop)
      (close descriptor) := by
  have frees : Ensures (Paired rules opens none)
      (inDescriptors (DescriptorTable.close descriptor) :
        Action (NameSpace δ σ) (OpenFile DriverId))
      (fun opened => Paired rules opens (some opened))
      (fun _ => Paired rules opens none) := by
    refine ensures_within fun space paired => ?_
    refine (meets_close space.descriptors descriptor).imp ?_ ?_
    · intro opened after ⟨held, drops⟩
      exact ⟨paired.serving.descriptors after,
        paired.balanced.moved _ (holderOf_drops held drops)⟩
    · rintro fault _ ⟨_, rfl⟩
      exact paired
  exact ensures_close_of frees (ensures_drop_paired keeping)
    indifferent_paired.note

/-! ### Mounting and unmounting -/

/-- A driver behind no mount. -/
structure PairedAside (rules : Books δ) (opens : DriverId → Nat)
    (driver : DriverId) (space : NameSpace δ σ) : Prop where
  paired : Paired rules opens none space
  spare : driver ∉ space.mounts.map Mount.driver

/-- A driver behind no mount that has never opened a file. -/
structure PairedNew (rules : Books δ) (opens : DriverId → Nat)
    (driver : DriverId) (space : NameSpace δ σ) : Prop where
  aside : PairedAside rules opens driver space
  new : opens driver = 0
  unheld : ∀ place opened, holderOf none space.descriptors place
    = some opened → opened.driver ≠ driver

/-- A driver that may be put behind a mount. -/
structure PairedReady (rules : Books δ) (opens : DriverId → Nat)
    (driver : DriverId) (space : NameSpace δ σ) : Prop where
  aside : Aside (fun _ => True) driver space
  serves : Serves (fun _ => True) space.world driver
  balanced : Balanced rules opens (holderOf none space.descriptors)
    (driver :: space.mounts.map Mount.driver) space.world.driver?

omit [Driver δ σ] in
/-- A driver behind no mount can do what it likes. -/
theorem PairedAside.putSite (aside : PairedAside rules opens driver space)
    {left : Site δ σ} (found : space.world.site? driver = some site)
    (kind : rules.kept left.driver ↔ rules.kept site.driver) :
    PairedAside rules opens driver
      { space with world := World.putSite driver left space.world } := by
  refine ⟨⟨aside.paired.serving.putSite found fun had => had, ?_⟩,
    aside.spare⟩
  show Balanced _ _ _ _ (World.putSite driver left space.world).driver?
  rw [driver?_putSite found]
  exact aside.paired.balanced.changed (becomes_of_site? found kind)
    fun member => absurd member aside.spare

omit [Driver δ σ] in
/-- A driver that is added is behind no mount, and nothing of it is
held. -/
theorem ensures_build_paired (fsType : String) (device : DeviceId) :
    Ensures (Paired rules opens none : NameSpace δ σ → Prop)
      (build fsType device) (PairedNew rules opens)
      (fun _ => Paired rules opens none) := by
  have adds : Ensures (Paired rules opens none : NameSpace δ σ → Prop)
      (build fsType device)
      (fun driver space =>
        Balanced rules opens (holderOf none space.descriptors)
            (space.mounts.map Mount.driver) space.world.driver?
          ∧ opens driver = 0 ∧ ∀ place opened,
            holderOf none space.descriptors place = some opened →
            opened.driver ≠ driver)
      (fun _ => Paired rules opens none) := by
    refine ensures_bind keeps_get fun _ => ?_
    refine ensures_bind (keeps_ofExcept _) fun fresh => ?_
    refine ensures_within fun space paired => ?_
    -- All that is held belongs to drivers with smaller numbers.
    have absent : space.world.driver? space.world.drivers.length = none := by
      rw [World.driver?, List.getElem?_eq_none (Nat.le_refl _)]
      rfl
    have grown : Extends space.world { space.world with
        drivers := space.world.drivers ++ [⟨fresh, device⟩] } :=
      ⟨Nat.le_refl _, List.prefix_append _ _⟩
    refine ⟨(paired.outside grown).balanced,
      paired.balanced.unopened absent, fun place opened held same => ?_⟩
    have isThere := paired.balanced.there held
    rw [same, absent] at isThere
    cases isThere
  have serving : Ensures
      (Serving (fun _ => True) : NameSpace δ σ → Prop)
      (build fsType device) (Aside fun _ => True)
      (fun _ => Serving fun _ => True) := ensures_build fsType device
  refine (serving.and adds).imp (fun _ paired => ⟨paired.serving, paired⟩)
    ?_ (fun _ _ known => known.2)
  rintro driver space ⟨⟨serving, spare⟩, balanced, new, unheld⟩
  exact ⟨⟨⟨serving, balanced⟩, spare⟩, new, unheld⟩

/-- A driver is put behind a mount when it has just been mounted. -/
theorem mounting_paired (keeping : BookKeeping σ rules)
    (device : DeviceId) :
    Mounting device (Paired rules opens none : NameSpace δ σ → Prop)
      (PairedNew rules opens) (PairedReady rules opens)
      (Paired rules opens none) where
  early paired := paired
  given new := new.aside.paired
  build fsType := ensures_build_paired fsType device
  noteAside driver event := fun _ new =>
    ⟨⟨indifferent_paired.events new.aside.paired _, new.aside.spare⟩,
      new.new, new.unheld⟩
  format driver := by
    refine ensures_call (fun _ new _ => new) ?_
    intro space site new found
    exact (keeping.kind _ site).imp
      (fun _ _ kind => ⟨new.aside.putSite found kind, new.new, new.unheld⟩)
      (fun _ _ kind => ⟨new.aside.putSite found kind, new.new, new.unheld⟩)
  mount driver := by
    refine ensures_call (fun _ new _ => new) ?_
    intro space site new found
    refine ((keeping.kind _ site).and (keeping.mount site)).imp ?_
      (fun _ _ known => ⟨new.aside.putSite found known.1, new.new,
        new.unheld⟩)
    rintro _ left ⟨kind, tells⟩
    have aside := new.aside.putSite found kind
    exact ⟨⟨aside.paired.serving, aside.spare⟩, serves_putSite found trivial,
      aside.paired.balanced.mounting (driver?_putSite_self found left) tells
        new.new new.unheld⟩
  enter path fsType driver := by
    rintro space ⟨aside, serves, balanced⟩
    refine ((ensures_enter_serving path fsType driver).apply
      ⟨aside, serves⟩).and ((ensures_enter_perm ⟨path, fsType, driver⟩
        space).apply rfl) |>.imp ?_ ?_
    · rintro _ _ ⟨serving, mounts, perm, rfl⟩
      refine ⟨serving, balanced.unmounting fun other member => ?_⟩
      exact ((perm.map Mount.driver).mem_iff.mp member)
    · rintro _ _ ⟨serving, rfl⟩
      exact ⟨serving, balanced.unmounting fun other member =>
        List.mem_cons_of_mem _ member⟩
  noteAfter := indifferent_paired.note

/-- A driver whose mount is taken out may give up its files: that they are
held does not matter any more. -/
theorem unmounting_paired (keeping : BookKeeping σ rules) :
    Unmounting (fun _ => (Paired rules opens none : NameSpace δ σ → Prop))
      (PairedAside rules opens) (Paired rules opens none) where
  withdraw path := by
    intro space paired
    refine ((ensures_withdraw path).apply paired.serving).and
      ((ensures_withdraw_perm path space).apply rfl) |>.imp ?_ ?_
    · rintro mount _ ⟨⟨serving, spare⟩, mounts, perm, rfl⟩
      refine ⟨⟨serving, paired.balanced.unmounting fun other member => ?_⟩,
        spare⟩
      exact (perm.map Mount.driver).mem_iff.mpr
        (List.mem_cons_of_mem _ member)
    · rintro _ _ ⟨_, rfl⟩
      exact paired
  noteRetired driver event := fun _ aside =>
    ⟨indifferent_paired.events aside.paired _, aside.spare⟩
  unmount driver := by
    refine ensures_call (fun _ aside _ => aside.paired) ?_
    intro space site aside found
    exact (keeping.kind _ site).imp
      (fun _ _ kind => (aside.putSite found kind).paired)
      (fun _ _ kind => (aside.putSite found kind).paired)
  noteAfter := indifferent_paired.note

end

/-! ### Commands -/

section

variable {rules : Books δ} {opens : DriverId → Nat}
  {space after : NameSpace δ σ} {others : World δ σ → World δ σ → Prop}
  [Driver δ σ]

/-- The driver that opens the file, if one does. -/
def Opening.driver? (opening : Opening) (space : NameSpace δ σ) :
    Option DriverId :=
  ((begin opening.path opening.mode opening.permissions).run
    space).reply?.bind fun reply => reply.toOption.map OpenFile.driver

/-- The driver that opens a file for a command, if one does. -/
def openedBy (command : Command δ α) (space : NameSpace δ σ) :
    Option DriverId :=
  (opening? command).bind fun opening => opening.driver? space

/-- One more file has been opened by a driver, if any. -/
def counting (opens : DriverId → Nat) : Option DriverId → DriverId → Nat
  | none => opens
  | some driver => Function.update opens driver (opens driver + 1)

theorem ensures_openFile_paired (keeping : BookKeeping σ rules)
    (opening : Opening) (space : NameSpace δ σ) :
    Ensures (fun state => state = space ∧ Paired rules opens none state)
      (openFile opening.path opening.mode opening.permissions)
      (fun _ => Paired rules (counting opens (opening.driver? space)) none)
      (fun _ =>
        Paired rules (counting opens (opening.driver? space)) none) := by
  have begins : Ensures
      (fun state => state = space ∧ Paired rules opens none state)
      (begin opening.path opening.mode opening.permissions)
      (fun opened => Paired rules
        (counting opens (opening.driver? space)) (some opened))
      (fun _ =>
        Paired rules (counting opens (opening.driver? space)) none) := by
    rintro space ⟨rfl, paired⟩
    have meets := (ensures_begin_paired keeping opening.path opening.mode
      opening.permissions).apply paired
    refine meets.reply?.imp ?_ ?_
    · rintro opened state ⟨answered, paired⟩
      rw [Opening.driver?, answered]
      exact paired
    · rintro fault state ⟨answered, paired⟩
      rw [Opening.driver?, answered]
      exact paired
  rw [openFile_eq]
  exact ensures_bind begins (ensures_settle_paired keeping)

/-- Every command leaves descriptors and open files paired. -/
theorem paired_run (keeping : BookKeeping σ rules) (command : Command δ α)
    (paired : Paired rules opens none space)
    (left : ((run command).run space).after? = some after) :
    Paired rules (counting opens (openedBy command space)) none after := by
  have calm (opens : DriverId → Nat) : Calm Scope.whole
      (Paired rules opens none : NameSpace δ σ → Prop) :=
    calm_paired keeping
  -- The count goes up only when a file is opened.
  cases is : opening? command with
  | none =>
    have keeps := keeps_run_of_mounting indifferent_paired (calm opens)
      (mounting_paired keeping) (unmounting_paired keeping) command
      (fun _ opens => by cases is.symm.trans opens)
      (fun descriptor _ => keeps_close_paired keeping descriptor)
    rw [openedBy, is]
    exact keeps.of_after? paired left
  | some opening =>
    have ensures := ensures_run_of_opening
      (ensures_openFile_paired keeping opening space)
      (fun _ => calm (counting opens (opening.driver? space)))
      (fun _ => trivial) (fun _ => trivial) (fun _ _ paired => paired)
      (keeps_close_paired keeping) is
    rw [openedBy, is]
    exact ensures.of_after? ⟨rfl, paired⟩ left

/-- The name spaces that come about by commands, together with how many
files each driver has opened. -/
inductive Counted (others : World δ σ → World δ σ → Prop) :
    NameSpace δ σ → (DriverId → Nat) → Prop where
  | empty (descriptorLimit : Nat) :
    Counted others (NameSpace.empty descriptorLimit) fun _ => 0
  | outside {space : NameSpace δ σ} {opens : DriverId → Nat}
    (world : World δ σ) :
    Counted others space opens → others space.world world →
    Counted others { space with world } opens
  | command {space after : NameSpace δ σ} {opens : DriverId → Nat}
    {α : Type} (command : Command δ α) :
    Counted others space opens →
    ((run command).run space).after? = some after →
    Counted others after (counting opens (openedBy command space))

theorem Counted.reachable (counted : Counted others space opens) :
    Reachable others space := by
  induction counted with
  | empty descriptorLimit => exact .empty descriptorLimit
  | outside world _ change ih => exact .outside world ih change
  | command command _ left ih => exact .command command ih left

theorem counting_le (opens : DriverId → Nat) (opener : Option DriverId)
    (driver : DriverId) : counting opens opener driver ≤ opens driver + 1 := by
  cases opener with
  | none => exact Nat.le_succ _
  | some other =>
    rw [counting, Function.update_apply]
    split
    · next same => exact same ▸ Nat.le_refl _
    · exact Nat.le_succ _

/-- No command opens more than one file. -/
theorem Counted.afterAll (counted : Counted others space opens)
    {commands : List (Command δ Unit)}
    (left : afterAll commands space = some after) :
    ∃ later, Counted others after later
      ∧ ∀ driver, later driver ≤ opens driver + commands.length := by
  -- The rest of the commands starts where the first one has left off.
  induction commands generalizing space opens with
  | nil =>
    cases left
    exact ⟨opens, counted, fun _ => Nat.le_refl _⟩
  | cons command rest ih =>
    obtain ⟨next, first, others⟩ := Option.bind_eq_some_iff.mp left
    obtain ⟨later, counted, few⟩ := ih (counted.command command first) others
    refine ⟨later, counted, fun driver => ?_⟩
    have one := counting_le opens (openedBy command space) driver
    have more := few driver
    rw [List.length_cons]
    omega

/-- In a name space in use descriptors and open files are paired. -/
theorem paired_of_counted (keeping : BookKeeping σ rules)
    (calm : ∀ world later, others world later → Extends world later)
    (counted : Counted others space opens) :
    Paired rules opens none space := by
  -- By induction on how the name space has come about.
  induction counted with
  | empty descriptorLimit => exact paired_empty descriptorLimit
  | outside world _ change ih => exact ih.outside (calm _ _ change)
  | command command _ left ih => exact paired_run keeping command ih left

end

end MountSpace.Proofs.NameSpaces
