import MountSpace.Proofs.Effects
import MountSpace.Volume

/-!
# `MountSpace.Proofs.Volumes.Plans`: what a request comes to

Ten of the thirteen requests are about files. What such a request comes to
is decided before anything is done: `planned` is a plan or the reason why
there is none, and asks no device.

* `run_serve_eq_or`: to answer such a request is to carry its plan out. A
  write can stop instead, but only where a device is larger than any byte
  string.
* `run_perform`: to carry a plan out is to store the tree, if it has to
  be, and then to replace what is mounted.
* `ensures_planned`: on any device, such a request leaves what was planned
  when it is done, and the volume as it was when it is refused.
  `refused_cases`: why it was refused.
-/

set_option autoImplicit false

namespace MountSpace.Proofs.Volumes

open Effects

/-! ### Plans -/

/-- Requests about files, not about the volume as a whole. -/
def AboutFiles {α : Type} : Request α → Prop
  | .mount | .unmount | .format => False
  | _ => True

/-- Requests about files that open none and close none. -/
def Passing {α : Type} : Request α → Prop
  | .mount | .unmount | .format | .openFile .. | .close _ => False
  | _ => True

theorem Passing.aboutFiles {α : Type} {request : Request α}
    (passing : Passing request) : AboutFiles request := by
  cases request with
  | mount | unmount | format => exact passing.elim
  | _ => trivial

/-- What is mounted, if anything is. -/
def current (volume : Volume) : Except Fault Mounted :=
  match volume.mounted with
  | some mounted => .ok mounted
  | none => .error .noDevice

/-- The plan for a request about files, or the reason why there is none.
There are no plans for the other requests. -/
def planned (volume : Volume) :
    {α : Type} → Request α → Except Fault (Plan α)
  | _, .mount | _, .unmount | _, .format => .error .noDevice
  | _, .openFile path flags _ => do
    if flags.isEmpty then .error .invalidArgument
    else
      let path ← Volume.names path
      let mounted ← current volume
      mounted.openFile path flags
  | _, .read file length position => do
    let mounted ← current volume
    mounted.read file length position
  | _, .write file data position => do
    let mounted ← current volume
    let handle ← mounted.writableHandle file
    if data.isEmpty then return mounted.seek file handle position
    else
      let (old, start) ← mounted.target handle data.length position
        mounted.geometry.capacity
      mounted.write file handle old start data
  | _, .close file => do
    let mounted ← current volume
    mounted.close file
  | _, .stat path => do
    let path ← Volume.names path
    let mounted ← current volume
    mounted.stat path
  | _, .makeDirectory path => do
    let path ← Volume.names path
    let mounted ← current volume
    mounted.makeDirectory path
  | _, .removeDirectory path => do
    let path ← Volume.names path
    if path.isEmpty then .error .invalidArgument
    else
      let mounted ← current volume
      mounted.removeDirectory path
  | _, .list path => do
    let path ← Volume.names path
    let mounted ← current volume
    mounted.list path
  | _, .rename source target => do
    let source ← Volume.names source
    let target ← Volume.names target
    if source.isEmpty ∨ target.isEmpty then .error .invalidArgument
    else
      let mounted ← current volume
      mounted.rename source target
  | _, .unlink path => do
    let path ← Volume.names path
    let mounted ← current volume
    mounted.unlink path

section

variable {σ α : Type}

theorem run_getMounted (site : Site Volume σ) :
    Volume.getMounted.run site
      = (Action.ofExcept (current site.driver)).run site := by
  rw [Volume.getMounted, current, Action.run_bind, Site.run_getDriver]
  cases found : site.driver.mounted <;> simp only [found] <;> rfl

variable [BlockDevice σ]

/-- To carry a plan out is to store its tree, if it has to be, and to
replace what is mounted when that has been done. -/
theorem run_perform (plan : Plan α) (site : Site Volume σ) :
    (Volume.perform plan).run site =
      if plan.stores then
        match (plan.next.root.store plan.next.geometry).run site.medium with
        | .done _ medium => .done plan.value ⟨⟨some plan.next⟩, medium⟩
        | .refused fault medium => .refused fault { site with medium }
        | .stopped trap => .stopped trap
      else .done plan.value { site with driver := ⟨some plan.next⟩ } := by
  rw [Volume.perform]
  by_cases stores : plan.stores
  · simp only [if_pos stores, Action.run_bind, Site.run_onMedium]
    cases (plan.next.root.store plan.next.geometry).run site.medium <;> rfl
  · simp only [if_neg stores]
    rfl

/-- A plan is carried out when its tree has been stored. -/
theorem run_perform_of_store {plan : Plan α} {site : Site Volume σ}
    {medium : Medium σ} (stores : plan.stores = true)
    (store : (plan.next.root.store plan.next.geometry).run site.medium
      = .done () medium) :
    (Volume.perform plan).run site
      = .done plan.value ⟨⟨some plan.next⟩, medium⟩ := by
  rw [run_perform, if_pos stores, store]

/-- To work on what is mounted is to ask for it, to plan, and to carry the
plan out. -/
theorem run_onMounted (plan : Mounted → Except Fault (Plan α))
    (site : Site Volume σ) :
    (Volume.onMounted plan).run site
      = (Action.ofExcept (current site.driver >>= plan)
          >>= Volume.perform).run site := by
  rw [Volume.onMounted, Action.run_bind, run_getMounted]
  cases current site.driver <;> rfl

/-- The same behind a step that needs no device. -/
theorem run_ofExcept_onMounted {β : Type} (first : Except Fault β)
    (plan : β → Mounted → Except Fault (Plan α)) (site : Site Volume σ) :
    (Action.ofExcept first >>= fun found =>
        Volume.onMounted (plan found)).run site
      = (Action.ofExcept (do
          let found ← first
          let mounted ← current site.driver
          plan found mounted) >>= Volume.perform).run site := by
  cases first with
  | error fault => rfl
  | ok found => exact run_onMounted (plan found) site

/-- A plan that keeps the tree is carried out without a device. -/
theorem run_onMounted_of_keeping {plan : Mounted → Except Fault (Plan α)}
    {mounted next : Mounted} {value : α}
    (keeps : plan mounted = .ok (next.keeping value)) (medium : Medium σ) :
    (Volume.onMounted plan).run ⟨⟨some mounted⟩, medium⟩
      = .done value ⟨⟨some next⟩, medium⟩ := by
  rw [run_onMounted, current, ok_bind, keeps]
  rfl

/-- So a file that is open can be closed, whatever the device does. -/
theorem run_close_of_open {mounted : Mounted} {file : FileId}
    {handle : Handle} (isOpen : mounted.handle file = .ok handle)
    (medium : Medium σ) :
    (Volume.serve (.close file)).run ⟨⟨some mounted⟩, medium⟩
      = .done () ⟨⟨some { mounted with
          handles := Keyed.erase mounted.handles file }⟩, medium⟩ := by
  refine run_onMounted_of_keeping ?_ medium
  rw [Mounted.close, isOpen]
  rfl

/-- What is to be written goes into a file, and ends within the
capacity. -/
theorem target_eq_ok {mounted : Mounted} {handle : Handle}
    {length start capacity : Nat} {position : Option Nat} {old : Bytes}
    (found : mounted.target handle length position capacity
      = .ok (old, start)) :
    mounted.root.lookup handle.path = .ok (.file old)
      ∧ start = (if handle.flags.appends then old.length
        else position.getD handle.cursor)
      ∧ start + length ≤ capacity := by
  obtain ⟨tree, lookup, found⟩ := bind_eq_ok_iff.mp found
  cases tree with
  | directory entries => nomatch found
  | file data =>
    by_cases past : capacity < (if handle.flags.appends then data.length
        else position.getD handle.cursor) + length
    · simp only [if_pos past] at found
      nomatch found
    · simp only [if_neg past] at found
      cases found
      exact ⟨lookup, rfl, Nat.not_lt.mp past⟩

/-- The rest of a write of some bytes, once the file is found. -/
theorem run_reserve_eq_or {start capacity : Nat} (data : Bytes)
    (within : start + data.length ≤ capacity)
    (plan : Except Fault (Plan α)) (site : Site Volume σ) :
    (Action.reserve (start + data.length) >>= fun _ =>
        Action.ofExcept plan >>= Volume.perform).run site
        = (Action.ofExcept plan >>= Volume.perform).run site
      ∨ (Action.reserve (start + data.length) >>= fun _ =>
          Action.ofExcept plan >>= Volume.perform).run site
          = .stopped .sizeOverflow ∧ sizeLimit ≤ capacity := by
  by_cases fits : start + data.length < sizeLimit
  · left
    rw [Action.run_bind, Action.run_reserve fits]
  · right
    rw [Action.run_bind, Action.run_reserve_of_le (Nat.not_lt.mp fits)]
    exact ⟨rfl, by omega⟩

/-- A write stops, or its plan is carried out. It stops for the capacity only
if that is no machine word. -/
theorem run_write_eq_or (file : FileId) (data : Bytes)
    (position : Option Nat) (site : Site Volume σ) :
    (Volume.write file data position).run site
        = (Action.ofExcept
            (planned site.driver (.write file data position))
          >>= Volume.perform).run site
      ∨ (∃ trap, (Volume.write file data position).run site
            = .stopped trap)
        ∧ ∃ mounted, site.driver.mounted = some mounted
          ∧ sizeLimit ≤ mounted.geometry.capacity
          ∧ ((Volume.write file data position).run site
              = .stopped .capacityOverflow →
            wordLimit ≤ mounted.geometry.capacity) := by
  rw [Volume.write, Action.run_bind, run_getMounted, planned, current]
  cases found : site.driver.mounted with
  | none => exact Or.inl rfl
  | some mounted =>
    simp only [Action.run_ofExcept_ok, Action.run_bind, ok_bind]
    cases mounted.writableHandle file with
    | error fault => exact Or.inl rfl
    | ok handle =>
      simp only [Action.run_ofExcept_ok, ok_bind]
      -- Writing nothing asks neither for the capacity nor for room.
      by_cases empty : data.isEmpty = true
      · simp only [if_pos empty]
        exact Or.inl rfl
      · simp only [if_neg empty, Action.run_bind]
        by_cases word : mounted.geometry.capacity < wordLimit
        · have room : mounted.geometry.room
              = (pure mounted.geometry.capacity :
                Action (Site Volume σ) Nat) := if_pos word
          simp only [room, Action.run_pure]
          cases target : mounted.target handle data.length position
              mounted.geometry.capacity with
          | error fault => exact Or.inl rfl
          | ok result =>
            obtain ⟨old, start⟩ := result
            -- What ends within the capacity needs no more room than that.
            have within := (target_eq_ok target).2.2
            rcases run_reserve_eq_or data within
              (mounted.write file handle old start data) site with
              same | ⟨stops, large⟩
            · exact Or.inl same
            · refine Or.inr ⟨⟨_, stops⟩, mounted, rfl, large, fun full => ?_⟩
              cases stops.symm.trans full
        · have room : mounted.geometry.room
              = (Action.stop .capacityOverflow :
                Action (Site Volume σ) Nat) := if_neg word
          have limits : sizeLimit ≤ wordLimit := by decide
          rw [room]
          exact Or.inr ⟨⟨_, rfl⟩, mounted, rfl, by omega, fun _ =>
            Nat.not_lt.mp word⟩

/-- To answer a request about files is to carry its plan out, unless it
is a write that stops. -/
theorem run_serve_eq_or {request : Request α} (files : AboutFiles request)
    (site : Site Volume σ) :
    (Volume.serve request).run site
        = (Action.ofExcept (planned site.driver request)
          >>= Volume.perform).run site
      ∨ (∃ trap, (Volume.serve request).run site = .stopped trap)
        ∧ ∃ mounted, site.driver.mounted = some mounted
          ∧ sizeLimit ≤ mounted.geometry.capacity
          ∧ ((Volume.serve request).run site = .stopped .capacityOverflow →
            wordLimit ≤ mounted.geometry.capacity) := by
  cases request with
  | mount | unmount | format => exact files.elim
  -- Only a write asks for more than its plan.
  | write file data position => exact run_write_eq_or file data position site
  | openFile path flags permissions =>
    left
    by_cases none : flags.isEmpty = true
    · simp only [Volume.serve, Volume.openFile, planned, if_pos none]
      rfl
    · simp only [Volume.serve, Volume.openFile, planned, if_neg none]
      exact run_ofExcept_onMounted _ _ site
  | read file length position => exact Or.inl (run_onMounted _ site)
  | close file => exact Or.inl (run_onMounted _ site)
  | stat path | makeDirectory path | list path | unlink path =>
    left
    simp only [Volume.serve, Volume.atPath, planned]
    exact run_ofExcept_onMounted _ _ site
  -- The root is refused before what is mounted is looked at.
  | removeDirectory path =>
    left
    simp only [Volume.serve, Volume.removeDirectory, planned]
    cases Volume.names path with
    | error fault => rfl
    | ok path =>
      by_cases root : path.isEmpty = true
      · simp only [Action.run_bind, Action.run_ofExcept_ok, ok_bind,
          if_pos root]
        rfl
      · simp only [Action.run_bind, Action.run_ofExcept_ok, ok_bind,
          if_neg root]
        exact run_onMounted _ site
  | rename source target =>
    left
    simp only [Volume.serve, Volume.rename, planned]
    cases Volume.names source with
    | error fault => rfl
    | ok source =>
      cases Volume.names target with
      | error fault => rfl
      | ok target =>
        by_cases root : source.isEmpty = true ∨ target.isEmpty = true
        · simp only [Action.run_bind, Action.run_ofExcept_ok, ok_bind,
            if_pos root]
          rfl
        · simp only [Action.run_bind, Action.run_ofExcept_ok, ok_bind,
            if_neg root]
          exact run_onMounted _ site

/-! ### What is left on any device -/

variable {volume : Volume}

/-- What is mounted is replaced after the tree has been stored, and not if
that fails. -/
theorem ensures_replaced (plan : Plan α) :
    Ensures (fun site : Site Volume σ => site.driver = volume)
      (Volume.perform plan)
      (fun value site => value = plan.value
        ∧ site.driver = ⟨some plan.next⟩)
      (fun _ site => site.driver = volume) := by
  intro site same
  rw [run_perform]
  split
  · cases (plan.next.root.store plan.next.geometry).run site.medium with
    | done _ medium => exact ⟨rfl, rfl⟩
    | refused fault medium => exact same
    | stopped trap => trivial
  · exact ⟨rfl, rfl⟩

/-- Planning asks no device, so whatever a device does, a request about
files comes to carrying its plan out, or to nothing. -/
theorem ensures_planned_of {request : Request α} (files : AboutFiles request)
    {done : α → Site Volume σ → Prop}
    (performs : ∀ plan, planned volume request = .ok plan →
      Ensures (fun site : Site Volume σ => site.driver = volume)
        (Volume.perform plan) done (fun _ site => site.driver = volume)) :
    Ensures (fun site : Site Volume σ => site.driver = volume)
      (Volume.serve request) done (fun _ site => site.driver = volume) := by
  rintro site rfl
  rcases run_serve_eq_or files site with run | ⟨⟨trap, stops⟩, _⟩
  · rw [run]
    cases made : planned site.driver request with
    | error fault => exact rfl
    | ok plan => exact (performs plan made).apply rfl
  · rw [stops]
    trivial

theorem ensures_planned {request : Request α} (files : AboutFiles request) :
    Ensures (fun site : Site Volume σ => site.driver = volume)
      (Volume.serve request)
      (fun value site => ∃ plan, planned volume request = .ok plan
        ∧ value = plan.value ∧ site.driver = ⟨some plan.next⟩)
      (fun _ site => site.driver = volume) :=
  ensures_planned_of files fun plan made =>
    (ensures_replaced plan).imp (fun _ start => start)
      (fun _ _ known => ⟨plan, made, known⟩) (fun _ _ same => same)

/-- A request about files that is done has a plan, and that has been carried
out. -/
theorem planned_of_done {request : Request α} {site after : Site Volume σ}
    {value : α} (run : (Volume.serve request).run site = .done value after)
    (files : AboutFiles request) :
    ∃ plan, planned site.driver request = .ok plan
      ∧ (Volume.perform plan).run site = .done value after := by
  rcases run_serve_eq_or files site with same | ⟨⟨trap, stops⟩, _⟩
  · rw [same] at run
    cases made : planned site.driver request with
    | error fault =>
      rw [made] at run
      nomatch run
    | ok plan =>
      rw [made, Action.run_bind, Action.run_ofExcept_ok] at run
      exact ⟨plan, rfl, run⟩
  · nomatch stops.symm.trans run

/-- A plan that has been carried out has replaced what is mounted, and what
it stores has been stored. -/
theorem performed_of_done {plan : Plan α} {site after : Site Volume σ}
    {value : α} (run : (Volume.perform plan).run site = .done value after) :
    value = plan.value ∧ after.driver = ⟨some plan.next⟩
      ∧ (plan.stores = true →
        (plan.next.root.store plan.next.geometry).run site.medium
          = .done () after.medium) := by
  rw [run_perform] at run
  split at run
  · cases ends : (plan.next.root.store plan.next.geometry).run
        site.medium with
    | done stored medium =>
      rw [ends] at run
      cases run
      exact ⟨rfl, rfl, fun _ => rfl⟩
    | refused fault medium =>
      rw [ends] at run
      nomatch run
    | stopped trap =>
      rw [ends] at run
      nomatch run
  · next none =>
    cases run
    exact ⟨rfl, rfl, fun stores => absurd stores none⟩

/-- A request about files that is refused has no plan, and nothing at all
has happened, or the tree that was planned could not be stored. -/
theorem refused_cases {request : Request α} (files : AboutFiles request)
    {site after : Site Volume σ} {fault : Fault}
    (refused : (Volume.serve request).run site = .refused fault after) :
    planned site.driver request = .error fault ∧ after = site
      ∨ ∃ plan medium, planned site.driver request = .ok plan
        ∧ plan.stores = true
        ∧ (plan.next.root.store plan.next.geometry).run site.medium
          = .refused fault medium
        ∧ after = { site with medium } := by
  rcases run_serve_eq_or files site with run | ⟨⟨trap, stops⟩, _⟩
  · rw [run] at refused
    cases made : planned site.driver request with
    | error reason =>
      rw [made] at refused
      cases refused
      exact Or.inl ⟨rfl, rfl⟩
    | ok plan =>
      rw [made, Action.run_bind, Action.run_ofExcept_ok] at refused
      simp only [run_perform] at refused
      split at refused
      · next stores =>
        cases ends : (plan.next.root.store plan.next.geometry).run
            site.medium with
        | refused reason medium =>
          rw [ends] at refused
          cases refused
          exact Or.inr ⟨plan, medium, rfl, stores, ends, rfl⟩
        | done value medium =>
          rw [ends] at refused
          nomatch refused
        | stopped trap =>
          rw [ends] at refused
          nomatch refused
      · nomatch refused
  · nomatch stops.symm.trans refused

end

end MountSpace.Proofs.Volumes
