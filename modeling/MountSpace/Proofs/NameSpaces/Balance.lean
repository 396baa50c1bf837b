import Mathlib.Algebra.Group.Nat.Defs
import Mathlib.Data.Nat.Basic
import Mathlib.Logic.Equiv.Basic
import Mathlib.Order.Basic
import MountSpace.DescriptorTable
import MountSpace.World

/-!
# `MountSpace.Proofs.NameSpaces.Balance`: open files, known at two places

A file that is open is known to its driver, under a number, and to whoever
holds it. `Balanced` says that both know of the same files. It looks at
neither of them from inside: a driver has a `Ledger`, and what is held is a
function from places to files. There are places for descriptors, and one for
a file that is on its way to a descriptor or from it.

Drivers give numbers out in order, starting from zero, and come back to zero
after the last one. So a number that is given out may be in use still, but
only with a driver that has opened more files than there are numbers. Of
such a driver nothing is said.

There is one lemma for each thing that can happen: files move (`moved`),
drivers are added, mounted and changed (`added`, `mounting`, `changed`), and
files are opened and closed (`opening`, `closing`).
-/

set_option autoImplicit false

namespace MountSpace.Proofs.NameSpaces

/-- What a driver knows of its open files. -/
structure Ledger where
  /-- The numbers of the files that are open. -/
  files : FileId → Prop
  /-- The number of the next file. -/
  next : FileId

/-- No file is open, and none has been. -/
def Ledger.empty : Ledger := ⟨fun _ => False, 0⟩

/-- One more file is open, under the next number. -/
def Ledger.opening (ledger : Ledger) : Ledger :=
  ⟨fun file => file = ledger.next ∨ ledger.files file, ledger.next + 1⟩

/-- A file is not open any more, if it was. -/
def Ledger.closing (ledger : Ledger) (file : FileId) : Ledger :=
  ⟨fun other => ledger.files other ∧ other ≠ file, ledger.next⟩

/-- The drivers whose open files are known, and what is known of them. -/
structure Books (δ : Type) where
  kept : δ → Prop
  tells : δ → Ledger → Prop

section

variable {δ ι κ : Type} {rules : Books δ} {opens : DriverId → Nat}
  {holder : ι → Option (OpenFile DriverId)} {mounted : List DriverId}
  {drivers : DriverId → Option δ} {driver : DriverId} {state left : δ}

/-- A file is held at some place. -/
def Held (holder : ι → Option (OpenFile DriverId)) (driver : DriverId)
    (file : FileId) : Prop :=
  ∃ place opened, holder place = some opened ∧ opened.driver = driver
    ∧ opened.file = file

/-- A driver is one whose open files are known, and has not opened more
files than there are numbers. -/
structure Known (rules : Books δ) (opens : DriverId → Nat)
    (drivers : DriverId → Option δ) (driver : DriverId) : Prop where
  kept : ∃ state, drivers driver = some state ∧ rules.kept state
  few : opens driver ≤ 2 ^ 32

/-- What a driver knows of is what is held. -/
def Agrees (opens : DriverId → Nat)
    (holder : ι → Option (OpenFile DriverId)) (driver : DriverId)
    (ledger : Ledger) : Prop :=
  opens driver ≤ 2 ^ 32 → ledger.next = UInt32.ofNat (opens driver)
    ∧ ∀ file, ledger.files file ↔ Held holder driver file

/-- The files that are held, and the drivers behind mounts. `opens` tells
how many files each driver has opened so far. -/
structure Balanced (rules : Books δ) (opens : DriverId → Nat)
    (holder : ι → Option (OpenFile DriverId)) (mounted : List DriverId)
    (drivers : DriverId → Option δ) : Prop where
  /-- All that is held was opened by drivers that are there. -/
  there {place : ι} {opened : OpenFile DriverId} :
    holder place = some opened → (drivers opened.driver).isSome
  unopened {driver : DriverId} : drivers driver = none → opens driver = 0
  /-- The numbers of the files were given out before. -/
  born {place : ι} {opened : OpenFile DriverId} :
    holder place = some opened → Known rules opens drivers opened.driver →
    opened.file.toNat < opens opened.driver
  /-- No file is held at two places. -/
  apart {place other : ι} {one two : OpenFile DriverId} :
    holder place = some one → holder other = some two →
    one.driver = two.driver → one.file = two.file →
    Known rules opens drivers one.driver → place = other
  matched {driver : DriverId} {state : δ} : driver ∈ mounted →
    drivers driver = some state → rules.kept state →
    ∃ ledger, rules.tells state ledger ∧ Agrees opens holder driver ledger

/-- Files can move from place to place. -/
theorem Balanced.moved
    (balanced : Balanced rules opens holder mounted drivers)
    {later : κ → Option (OpenFile DriverId)} (places : κ ≃ ι)
    (same : ∀ place, later place = holder (places place)) :
    Balanced rules opens later mounted drivers where
  there held := balanced.there ((same _).symm.trans held)
  unopened := balanced.unopened
  born held := balanced.born ((same _).symm.trans held)
  apart held heldOther sameDriver sameFile known :=
    places.injective (balanced.apart ((same _).symm.trans held)
      ((same _).symm.trans heldOther) sameDriver sameFile known)
  matched member found kept := by
    obtain ⟨ledger, tells, agrees⟩ := balanced.matched member found kept
    refine ⟨ledger, tells, fun few => ⟨(agrees few).1, fun file => ?_⟩⟩
    rw [(agrees few).2 file]
    constructor
    · rintro ⟨place, opened, held, is⟩
      refine ⟨places.symm place, opened, ?_, is⟩
      rw [same, Equiv.apply_symm_apply]
      exact held
    · rintro ⟨place, opened, held, is⟩
      exact ⟨places place, opened, (same place).symm.trans held, is⟩

/-- Mounts can go, and change their order. -/
theorem Balanced.unmounting
    (balanced : Balanced rules opens holder mounted drivers)
    {fewer : List DriverId} (still : ∀ driver ∈ fewer, driver ∈ mounted) :
    Balanced rules opens holder fewer drivers where
  there := balanced.there
  unopened := balanced.unopened
  born := balanced.born
  apart := balanced.apart
  matched member := balanced.matched (still _ member)

/-- A driver that has just been mounted has no files open, and if it is new
none of its files are held. -/
theorem Balanced.mounting
    (balanced : Balanced rules opens holder mounted drivers)
    (found : drivers driver = some state)
    (tells : rules.kept state → rules.tells state .empty)
    (new : opens driver = 0)
    (unheld : ∀ place opened, holder place = some opened →
      opened.driver ≠ driver) :
    Balanced rules opens holder (driver :: mounted) drivers where
  there := balanced.there
  unopened := balanced.unopened
  born := balanced.born
  apart := balanced.apart
  matched {other} _ member isThere kept := by
    by_cases same : other = driver
    · subst same
      cases found.symm.trans isThere
      refine ⟨_, tells kept, fun _ => ⟨by rw [new]; rfl, fun file => ?_⟩⟩
      constructor
      · exact False.elim
      · rintro ⟨place, opened, held, is, _⟩
        exact unheld place opened held is
    · exact balanced.matched (List.mem_of_ne_of_mem same member) isThere
        kept

/-- Drivers can be added. -/
theorem Balanced.added
    (balanced : Balanced rules opens holder mounted drivers)
    (installed : ∀ driver ∈ mounted, (drivers driver).isSome)
    {more : DriverId → Option δ}
    (stay : ∀ driver, (drivers driver).isSome →
      more driver = drivers driver) :
    Balanced rules opens holder mounted more := by
  -- Nothing is held of a driver that is new.
  have before {driver : DriverId} (isThere : (drivers driver).isSome)
      (known : Known rules opens more driver) :
      Known rules opens drivers driver :=
    ⟨stay driver isThere ▸ known.kept, known.few⟩
  refine ⟨fun held => ?_, fun {driver} absent => ?_, fun held known => ?_,
    fun held heldOther sameDriver sameFile known => ?_,
    fun {driver state} member found kept => ?_⟩
  · rw [stay _ (balanced.there held)]
    exact balanced.there held
  · refine balanced.unopened (Option.not_isSome_iff_eq_none.mp fun isThere => ?_)
    rw [← stay driver isThere, absent] at isThere
    cases isThere
  · exact balanced.born held (before (balanced.there held) known)
  · exact balanced.apart held heldOther sameDriver sameFile
      (before (balanced.there held) known)
  · rw [stay driver (installed driver member)] at found
    exact balanced.matched member found kept

/-! ### Requests -/

/-- A driver has got into another state. -/
def putDriver (drivers : DriverId → Option δ) (driver : DriverId)
    (left : δ) : DriverId → Option δ :=
  fun other => if other = driver then some left else drivers other

theorem putDriver_self : putDriver drivers driver left driver = some left :=
  if_pos rfl

theorem putDriver_of_ne {other : DriverId} (different : other ≠ driver) :
    putDriver drivers driver left other = drivers other :=
  if_neg different

theorem putDriver_eq (found : drivers driver = some state) :
    putDriver drivers driver state = drivers := by
  funext other
  by_cases same : other = driver
  · subst same
    rw [putDriver_self, found]
  · rw [putDriver_of_ne same]

/-- Drivers whose files are known are so for good. -/
structure Becomes (rules : Books δ) (drivers : DriverId → Option δ)
    (driver : DriverId) (state left : δ) : Prop where
  found : drivers driver = some state
  kind : rules.kept left ↔ rules.kept state

theorem Becomes.isSome (becomes : Becomes rules drivers driver state left)
    (other : DriverId) :
    (putDriver drivers driver left other).isSome = (drivers other).isSome := by
  by_cases same : other = driver
  · subst same
    rw [putDriver_self, becomes.found]
    rfl
  · rw [putDriver_of_ne same]

theorem Becomes.known (becomes : Becomes rules drivers driver state left)
    {more : DriverId → Nat} (grown : ∀ other, opens other ≤ more other)
    {other : DriverId}
    (known : Known rules more (putDriver drivers driver left) other) :
    Known rules opens drivers other := by
  refine ⟨?_, Nat.le_trans (grown other) known.few⟩
  obtain ⟨found, is, kept⟩ := known.kept
  by_cases same : other = driver
  · subst same
    cases putDriver_self.symm.trans is
    exact ⟨state, becomes.found, becomes.kind.mp kept⟩
  · rw [putDriver_of_ne same] at is
    exact ⟨found, is, kept⟩

/-- A driver can do what it likes as long as it has the same files open, and
even that does not matter if it is behind no mount. -/
theorem Balanced.changed
    (balanced : Balanced rules opens holder mounted drivers)
    (becomes : Becomes rules drivers driver state left)
    (still : driver ∈ mounted → ∀ ledger, rules.tells state ledger →
      rules.tells left ledger) :
    Balanced rules opens holder mounted (putDriver drivers driver left) where
  there held := (becomes.isSome _).trans (balanced.there held)
  unopened {other} absent := by
    refine balanced.unopened (Option.not_isSome_iff_eq_none.mp ?_)
    rw [← becomes.isSome other, absent]
    exact Bool.false_ne_true
  born held known :=
    balanced.born held (becomes.known (fun _ => Nat.le_refl _) known)
  apart held heldOther sameDriver sameFile known :=
    balanced.apart held heldOther sameDriver sameFile
      (becomes.known (fun _ => Nat.le_refl _) known)
  -- Only drivers behind mounts have to know what is held of them.
  matched {other} _ member found kept := by
    by_cases same : other = driver
    · subst same
      cases putDriver_self.symm.trans found
      obtain ⟨ledger, tells, agrees⟩ :=
        balanced.matched member becomes.found (becomes.kind.mp kept)
      exact ⟨ledger, still member ledger tells, agrees⟩
    · rw [putDriver_of_ne same] at found
      exact balanced.matched member found kept

section

variable [DecidableEq ι] {place : ι} {opened : OpenFile DriverId}

/-- What is held when a place is given to a file. -/
theorem held_update_some (free : holder place = none) (other : DriverId)
    (file : FileId) :
    Held (Function.update holder place (some opened)) other file
      ↔ (opened.driver = other ∧ opened.file = file)
        ∨ Held holder other file := by
  constructor
  · rintro ⟨spot, found, held, is⟩
    by_cases same : spot = place
    · subst same
      rw [Function.update_self] at held
      cases held
      exact .inl is
    · rw [Function.update_of_ne same] at held
      exact .inr ⟨spot, found, held, is⟩
  · rintro (is | ⟨spot, found, held, is⟩)
    · exact ⟨place, opened, Function.update_self .., is⟩
    · refine ⟨spot, found, ?_, is⟩
      have different : spot ≠ place := by
        rintro rfl
        cases free.symm.trans held
      rw [Function.update_of_ne different]
      exact held

/-- A file that has been opened under the next number is known and held. -/
theorem Agrees.opening {ledger : Ledger}
    (agrees : Agrees opens holder opened.driver ledger)
    (free : holder place = none) (isNext : opened.file = ledger.next) :
    Agrees (Function.update opens opened.driver (opens opened.driver + 1))
      (Function.update holder place (some opened)) opened.driver
      ledger.opening := by
  intro few
  rw [Function.update_self] at few ⊢
  obtain ⟨numbered, held⟩ := agrees (Nat.le_of_succ_le few)
  constructor
  · rw [Ledger.opening, numbered, UInt32.ofNat_add]
    rfl
  · intro file
    rw [held_update_some free, ← held, isNext, Ledger.opening]
    simp [eq_comm]

/-- It is of no interest to other drivers. -/
theorem Agrees.opening_of_ne {ledger : Ledger} {count : Nat}
    (agrees : Agrees opens holder driver ledger)
    (free : holder place = none) (different : driver ≠ opened.driver) :
    Agrees (Function.update opens opened.driver count)
      (Function.update holder place (some opened)) driver ledger := by
  intro few
  rw [Function.update_of_ne different] at few ⊢
  refine ⟨(agrees few).1, fun file => ?_⟩
  rw [held_update_some free, (agrees few).2]
  simp [Ne.symm different]

omit [DecidableEq ι] in
/-- The number of a new file is how many were opened before. -/
theorem Balanced.toNat_file
    (balanced : Balanced rules opens holder mounted drivers)
    (member : opened.driver ∈ mounted)
    (found : drivers opened.driver = some state) (kept : rules.kept state)
    (isNext : ∀ ledger, rules.tells state ledger →
      opened.file = ledger.next)
    (few : opens opened.driver < 2 ^ 32) :
    opened.file.toNat = opens opened.driver := by
  obtain ⟨ledger, tells, agrees⟩ := balanced.matched member found kept
  rw [isNext ledger tells, (agrees (Nat.le_of_lt few)).1,
    UInt32.toNat_ofNat']
  exact Nat.mod_eq_of_lt few

/-- A driver behind a mount has opened a file under its next number, and the
file is held from now on. -/
theorem Balanced.opening
    (balanced : Balanced rules opens holder mounted drivers)
    (opened : OpenFile DriverId)
    (becomes : Becomes rules drivers opened.driver state left)
    (member : opened.driver ∈ mounted) (free : holder place = none)
    (tells : ∀ ledger, rules.tells state ledger →
      opened.file = ledger.next ∧ rules.tells left ledger.opening) :
    Balanced rules
      (Function.update opens opened.driver (opens opened.driver + 1))
      (Function.update holder place (some opened)) mounted
      (putDriver drivers opened.driver left) := by
  have grown : opens
      ≤ Function.update opens opened.driver (opens opened.driver + 1) :=
    le_update_self_iff.mpr (Nat.le_succ _)
  have number (known : Known rules
        (Function.update opens opened.driver (opens opened.driver + 1))
        (putDriver drivers opened.driver left) opened.driver) :
      opened.file.toNat = opens opened.driver := by
    have few := known.few
    rw [Function.update_self] at few
    obtain ⟨before, found, kept⟩ := (becomes.known grown known).kept
    cases becomes.found.symm.trans found
    exact balanced.toNat_file member found kept
      (fun ledger told => (tells ledger told).1) few
  -- The numbers of all files that are held are less than the new one.
  have new {spot : ι} {found : OpenFile DriverId}
      (held : holder spot = some found)
      (sameDriver : found.driver = opened.driver)
      (sameFile : found.file = opened.file)
      (known : Known rules
        (Function.update opens opened.driver (opens opened.driver + 1))
        (putDriver drivers opened.driver left) opened.driver) : False := by
    have born := balanced.born held
      (becomes.known grown (sameDriver ▸ known))
    rw [sameFile, sameDriver, number known] at born
    exact Nat.lt_irrefl _ born
  refine ⟨fun {spot found} held => ?_, fun {other} absent => ?_,
    fun {spot found} held known => ?_,
    fun {spot other one two} held heldOther sameDriver sameFile known => ?_,
    fun {other last} memberOther found kept => ?_⟩
  · rw [becomes.isSome]
    rw [Function.update_apply] at held
    split at held
    · cases held
      rw [becomes.found]
      rfl
    · exact balanced.there held
  · have different : other ≠ opened.driver := by
      rintro rfl
      cases putDriver_self.symm.trans absent
    rw [putDriver_of_ne different] at absent
    rw [Function.update_of_ne different]
    exact balanced.unopened absent
  · rw [Function.update_apply] at held
    split at held
    · cases held
      rw [Function.update_self, number known]
      exact Nat.lt_succ_self _
    · exact Nat.lt_of_lt_of_le
        (balanced.born held (becomes.known grown known)) (grown _)
  -- One of two places can be that of the new file, whose number is held
  -- nowhere else.
  · rw [Function.update_apply] at held heldOther
    split at held
    · next here =>
      cases held
      split at heldOther
      · next hereToo => rw [here, hereToo]
      · exact (new heldOther sameDriver.symm sameFile.symm known).elim
    · split at heldOther
      · cases heldOther
        exact (new held sameDriver sameFile (sameDriver ▸ known)).elim
      · exact balanced.apart held heldOther sameDriver sameFile
          (becomes.known grown known)
  · by_cases same : other = opened.driver
    · subst same
      cases putDriver_self.symm.trans found
      obtain ⟨ledger, told, agrees⟩ := balanced.matched memberOther
        becomes.found (becomes.kind.mp kept)
      obtain ⟨isNext, toldNext⟩ := tells ledger told
      exact ⟨ledger.opening, toldNext, agrees.opening free isNext⟩
    · rw [putDriver_of_ne same] at found
      obtain ⟨ledger, told, agrees⟩ :=
        balanced.matched memberOther found kept
      exact ⟨ledger, told, agrees.opening_of_ne free same⟩

/-- What is held when a file leaves its place. -/
theorem held_update_none (held : holder place = some opened)
    (other : DriverId) (file : FileId)
    (apart : opened.driver = other → opened.file = file → ∀ spot found,
      holder spot = some found → found.driver = other → found.file = file →
      spot = place) :
    Held (Function.update holder place none) other file
      ↔ Held holder other file
        ∧ ¬ (opened.driver = other ∧ opened.file = file) := by
  constructor
  · rintro ⟨spot, found, heldLater, is⟩
    rw [Function.update_apply] at heldLater
    split at heldLater
    · cases heldLater
    · next different =>
      refine ⟨⟨spot, found, heldLater, is⟩, fun isOpened => different ?_⟩
      exact apart isOpened.1 isOpened.2 spot found heldLater is.1 is.2
  · rintro ⟨⟨spot, found, heldBefore, is⟩, isNot⟩
    refine ⟨spot, found, ?_, is⟩
    have different : spot ≠ place := by
      rintro rfl
      cases held.symm.trans heldBefore
      exact isNot is
    rw [Function.update_of_ne different]
    exact heldBefore

/-- A file that has been closed is not known and not held any more, when it
was held at one place only. -/
theorem Agrees.closing {ledger : Ledger}
    (agrees : Agrees opens holder opened.driver ledger)
    (held : holder place = some opened)
    (apart : opens opened.driver ≤ 2 ^ 32 → ∀ spot found,
      holder spot = some found → found.driver = opened.driver →
      found.file = opened.file → spot = place) :
    Agrees opens (Function.update holder place none) opened.driver
      (ledger.closing opened.file) := by
  intro few
  refine ⟨(agrees few).1, fun file => ?_⟩
  rw [held_update_none held, ← (agrees few).2, Ledger.closing]
  · simp [eq_comm]
  · rintro - rfl
    exact apart few

theorem Agrees.closing_of_ne {ledger : Ledger}
    (agrees : Agrees opens holder driver ledger)
    (held : holder place = some opened)
    (different : driver ≠ opened.driver) :
    Agrees opens (Function.update holder place none) driver ledger := by
  intro few
  refine ⟨(agrees few).1, fun file => ?_⟩
  rw [(agrees few).2, held_update_none held]
  · simp [Ne.symm different]
  · exact fun is => absurd is.symm different

/-- A file is closed, and not held any more. -/
theorem Balanced.closing
    (balanced : Balanced rules opens holder mounted drivers)
    (becomes : Becomes rules drivers opened.driver state left)
    (held : holder place = some opened)
    (tells : opened.driver ∈ mounted → ∀ ledger, rules.tells state ledger →
      rules.tells left (ledger.closing opened.file)) :
    Balanced rules opens (Function.update holder place none) mounted
      (putDriver drivers opened.driver left) := by
  have before {spot : ι} {found : OpenFile DriverId}
      (heldLater : Function.update holder place none spot = some found) :
      holder spot = some found := by
    rw [Function.update_apply] at heldLater
    split at heldLater
    · cases heldLater
    · exact heldLater
  have earlier {other : DriverId} (known : Known rules opens
      (putDriver drivers opened.driver left) other) :
      Known rules opens drivers other :=
    becomes.known (fun _ => Nat.le_refl _) known
  refine ⟨fun held => ?_, fun {other} absent => ?_,
    fun held known => balanced.born (before held) (earlier known),
    fun held heldOther sameDriver sameFile known =>
      balanced.apart (before held) (before heldOther) sameDriver sameFile
        (earlier known),
    fun {other last} member found kept => ?_⟩
  · exact (becomes.isSome _).trans (balanced.there (before held))
  · refine balanced.unopened (Option.not_isSome_iff_eq_none.mp ?_)
    rw [← becomes.isSome other, absent]
    exact Bool.false_ne_true
  · by_cases same : other = opened.driver
    · subst same
      cases putDriver_self.symm.trans found
      have keptBefore := becomes.kind.mp kept
      obtain ⟨ledger, told, agrees⟩ :=
        balanced.matched member becomes.found keptBefore
      refine ⟨_, tells member ledger told, agrees.closing held ?_⟩
      -- It was held at this place only, so it is held nowhere now.
      intro few spot found heldSpot sameDriver sameFile
      have known : Known rules opens drivers opened.driver :=
        ⟨⟨state, becomes.found, keptBefore⟩, few⟩
      exact balanced.apart heldSpot held sameDriver sameFile
        (sameDriver ▸ known)
    · rw [putDriver_of_ne same] at found
      obtain ⟨ledger, told, agrees⟩ := balanced.matched member found kept
      exact ⟨ledger, told, agrees.closing_of_ne held same⟩

/-- What is held of a driver that is behind no mount can be let go. -/
theorem Balanced.dropping
    (balanced : Balanced rules opens holder mounted drivers)
    (held : holder place = some opened)
    (unmounted : opened.driver ∉ mounted) :
    Balanced rules opens (Function.update holder place none) mounted
      drivers := by
  obtain ⟨state, found⟩ :=
    Option.isSome_iff_exists.mp (balanced.there held)
  have closed := balanced.closing ⟨found, Iff.rfl⟩ held
    fun member => absurd member unmounted
  rw [putDriver_eq found] at closed
  exact closed

end

end

end MountSpace.Proofs.NameSpaces
