import MountSpace.Proofs.Volumes.Refusals

/-!
# `MountSpace.Proofs.Volumes.Unmounted`: volumes that are not mounted

A volume without a tree has no files to answer for. It refuses whatever is
asked of it but to mount or to format, and neither it nor its device is
touched. What it tells depends on the request alone: arguments that no
volume takes are refused for what is wrong with them (`Flaw`), and all other
requests because no device is there.

* `Dismounted`: the volumes that are new, were unmounted or could not be
  mounted. `mounted_of_dismounted`: they have no tree.
* `refuses_of_dismounted`: what such a volume answers.
* `refuses_flawed`: two requests that it refuses for their arguments.
-/

set_option autoImplicit false

namespace MountSpace.Proofs.Volumes

open Effects

section

variable {σ α : Type}

/-! ### Arguments that no volume takes -/

/-- The paths in a request. -/
def paths : {α : Type} → Request α → List String
  | _, .openFile path _ _ | _, .stat path | _, .makeDirectory path
  | _, .removeDirectory path | _, .list path | _, .unlink path => [path]
  | _, .rename source target => [source, target]
  | _, .mount | _, .unmount | _, .format | _, .read .. | _, .write ..
  | _, .close _ => []

/-- A request to open a file neither for reading nor for writing nor for
anything else. -/
def OpensForNothing : {α : Type} → Request α → Prop
  | _, .openFile _ flags _ => flags.isEmpty = true
  | _, _ => False

/-- A request to remove the root, or to move it or something in its
place. -/
def Uproots : {α : Type} → Request α → Prop
  | _, .removeDirectory path => Volume.names path = .ok []
  | _, .rename source target =>
    Volume.names source = .ok [] ∨ Volume.names target = .ok []
  | _, _ => False

/-- What is wrong with the arguments of a request, whatever is mounted. -/
inductive Flaw (request : Request α) : Fault → Prop
  | longName {path : String} (named : path ∈ paths request)
      (long : Volume.names path = .error .nameTooLong) :
      Flaw request .nameTooLong
  | nothing (nothing : OpensForNothing request) :
      Flaw request .invalidArgument
  | root (uproots : Uproots request) : Flaw request .invalidArgument

/-- What a volume without a tree tells: what is wrong with the arguments, or
that no device is there if there is nothing wrong with them. -/
def Told (request : Request α) (fault : Fault) : Prop :=
  Flaw request fault ∨ fault = .noDevice ∧ ∀ other, ¬ Flaw request other

/-- The only thing that can be wrong with a path is a long name. -/
theorem names_cases (path : String) :
    Volume.names path = .error .nameTooLong
      ∨ ∃ names, Volume.names path = .ok names := by
  rw [Volume.names]
  generalize (Path.normalForm _).names = found
  by_cases long : found.any fun name => maxNameLength < name.utf8ByteSize
  · exact .inl (if_pos long)
  · exact .inr ⟨found, if_neg long⟩

/-- A request without a flaw. -/
theorem told_noDevice {request : Request α}
    (short : ∀ path ∈ paths request, ∃ names, Volume.names path = .ok names)
    (some : ¬ OpensForNothing request) (stays : ¬ Uproots request) :
    Told request .noDevice := by
  refine .inr ⟨rfl, fun fault flaw => ?_⟩
  cases flaw with
  | longName named long =>
    obtain ⟨names, found⟩ := short _ named
    cases long.symm.trans found
  | nothing nothing => exact some nothing
  | root uproots => exact stays uproots

/-- Without a tree there is no plan. -/
theorem planned_of_unmounted {volume : Volume} {request : Request α}
    (unmounted : volume.mounted = none) (files : AboutFiles request) :
    ∃ fault, planned volume request = .error fault
      ∧ Told request fault := by
  have nothing : current volume = .error .noDevice := by
    rw [current, unmounted]
  cases request with
  | mount | unmount | format => exact files.elim
  | read file length position | write file data position | close file =>
    refine ⟨.noDevice, ?_, told_noDevice (List.forall_mem_nil _) (fun no => no)
      fun no => no⟩
    rw [planned, nothing]
    rfl
  | stat path | makeDirectory path | list path | unlink path =>
    rw [planned]
    rcases names_cases path with long | ⟨names, found⟩
    · rw [long]
      exact ⟨_, rfl, .inl (.longName (List.mem_singleton.mpr rfl) long)⟩
    · rw [found, nothing]
      refine ⟨_, rfl, told_noDevice ?_ (fun no => no) fun no => no⟩
      exact List.forall_mem_singleton.mpr ⟨names, found⟩
  | openFile path flags permissions =>
    rw [planned]
    by_cases empty : flags.isEmpty = true
    · rw [if_pos empty]
      exact ⟨_, rfl, .inl (.nothing empty)⟩
    rw [if_neg empty]
    rcases names_cases path with long | ⟨names, found⟩
    · rw [long]
      exact ⟨_, rfl, .inl (.longName (List.mem_singleton.mpr rfl) long)⟩
    · rw [found, nothing]
      refine ⟨_, rfl, told_noDevice ?_ empty fun no => no⟩
      exact List.forall_mem_singleton.mpr ⟨names, found⟩
  | removeDirectory path =>
    rw [planned]
    rcases names_cases path with long | ⟨names, found⟩
    · rw [long]
      exact ⟨_, rfl, .inl (.longName (List.mem_singleton.mpr rfl) long)⟩
    rw [found, ok_bind, nothing]
    cases names with
    | nil => exact ⟨_, rfl, .inl (.root found)⟩
    | cons name rest =>
      refine ⟨_, rfl, told_noDevice ?_ (fun no => no) fun uproots => ?_⟩
      · exact List.forall_mem_singleton.mpr ⟨_, found⟩
      · cases found.symm.trans uproots
  | rename source target =>
    rw [planned]
    rcases names_cases source with long | ⟨names, found⟩
    · rw [long]
      exact ⟨_, rfl, .inl (.longName List.mem_cons_self long)⟩
    rw [found, ok_bind]
    rcases names_cases target with long | ⟨others, foundOther⟩
    · rw [long]
      exact ⟨_, rfl,
        .inl (.longName (List.mem_cons_of_mem _ List.mem_cons_self) long)⟩
    rw [foundOther, ok_bind, nothing]
    by_cases root : names.isEmpty = true ∨ others.isEmpty = true
    · rw [if_pos root]
      refine ⟨_, rfl, .inl (.root ?_)⟩
      simp only [List.isEmpty_iff] at root
      rcases root with rfl | rfl
      · exact .inl found
      · exact .inr foundOther
    · rw [if_neg root]
      refine ⟨_, rfl, told_noDevice ?_ (fun no => no) fun uproots => ?_⟩
      · intro path named
        simp only [paths, List.mem_cons, List.not_mem_nil, or_false] at named
        rcases named with rfl | rfl
        · exact ⟨_, found⟩
        · exact ⟨_, foundOther⟩
      · refine root ?_
        simp only [List.isEmpty_iff]
        rcases uproots with empty | empty
        · exact .inl (Except.ok.inj (found.symm.trans empty))
        · exact .inr (Except.ok.inj (foundOther.symm.trans empty))

/-! ### Without a tree -/

variable [BlockDevice σ]

/-- A volume that has no tree refuses all requests but to mount and to
format, and nothing is touched. -/
theorem run_serve_of_unmounted {request : Request α} {site : Site Volume σ}
    (unmounted : site.driver.mounted = none)
    (other : AboutFiles request ∨ IsUnmount request) :
    ∃ fault, (Volume.serve request).run site = .refused fault site
      ∧ Told request fault := by
  by_cases files : AboutFiles request
  · obtain ⟨fault, none, told⟩ := planned_of_unmounted unmounted files
    refine ⟨fault, ?_, told⟩
    rcases run_serve_eq_or files site with run | ⟨_, mounted, found, _⟩
    · rw [run, none]
      rfl
    · cases unmounted.symm.trans found
  cases request with
  | unmount =>
    refine ⟨.noDevice, ?_, told_noDevice (List.forall_mem_nil _) (fun no => no)
      fun no => no⟩
    show Volume.unmount.run site = _
    rw [Volume.unmount, Action.run_bind, run_getMounted, current, unmounted]
    rfl
  | mount | format => exact (other.resolve_left files).elim
  | _ => exact absurd trivial files

/-- Requests to read the tree from the device. -/
def IsMount : Request α → Prop
  | .mount => True
  | _ => False

/-- The volumes that are new, were unmounted or could not be mounted. Since
then they may have been asked for anything that has not mounted them, and
anything may have become of their device. -/
inductive Dismounted : Site Volume σ → Prop
  | fresh (medium : Medium σ) : Dismounted ⟨.fresh, medium⟩
  | unmounted {site after : Site Volume σ}
      (left : ((Volume.serve .unmount).run site).after? = some after) :
      Dismounted after
  | refused {site after : Site Volume σ} {α : Type} {request : Request α}
      {fault : Fault} (before : Dismounted site)
      (run : (Volume.serve request).run site = .refused fault after) :
      Dismounted after
  | done {site after : Site Volume σ} {α : Type} {request : Request α}
      {value : α} (before : Dismounted site) (other : ¬ IsMount request)
      (run : (Volume.serve request).run site = .done value after) :
      Dismounted after
  | medium {site : Site Volume σ} (before : Dismounted site)
      (medium : Medium σ) : Dismounted { site with medium }

/-- What is mounted becomes empty when the device does, and nothing
else is mounted thereby. -/
theorem keeps_format_unmounted :
    Keeps (fun site : Site Volume σ => site.driver.mounted = none)
      Volume.format := by
  have outside {β : Type} (action : Action (Medium σ) β) :
      Keeps (fun site : Site Volume σ => site.driver.mounted = none)
        (Site.onMedium action) :=
    keeps_onMedium (fun volume : Volume => volume.mounted = none) action
  refine keeps_bind (outside _) fun geometry => ?_
  refine keeps_bind (keeps_modify fun site unmounted => ?_) fun _ =>
    outside _
  show Option.map _ site.driver.mounted = none
  rw [unmounted]
  rfl

theorem keeps_unmounted {request : Request α} (other : ¬ IsMount request) :
    Keeps (fun site : Site Volume σ => site.driver.mounted = none)
      (Volume.serve request) := by
  intro site unmounted
  by_cases refuses : AboutFiles request ∨ IsUnmount request
  · obtain ⟨fault, run, _⟩ := run_serve_of_unmounted unmounted refuses
    rw [run]
    exact unmounted
  cases request with
  | mount => exact absurd trivial other
  | format => exact keeps_format_unmounted.apply unmounted
  | unmount => exact absurd (.inr trivial) refuses
  | _ => exact absurd (.inl trivial) refuses

/-- By induction on what was asked: only a mount that is done gives a volume
a tree. -/
theorem mounted_of_dismounted {site : Site Volume σ}
    (dismounted : Dismounted site) : site.driver.mounted = none := by
  induction dismounted with
  | fresh medium => rfl
  | unmounted left =>
    rw [ensures_unmounted.of_after? trivial left]
  | @refused site after α request fault before run ih =>
    by_cases mounts : IsMount request
    · cases request with
      | mount =>
        have left := spares_mount site rfl
        rw [show Volume.mount.run site = _ from run] at left
        exact congrArg Volume.mounted left |>.trans ih
      | _ => exact mounts.elim
    · have left := keeps_unmounted mounts site ih
      rw [run] at left
      exact left
  | @done site after α request value before other run ih =>
    have left := keeps_unmounted other site ih
    rw [run] at left
    exact left
  | medium before medium ih => exact ih

/-- A volume that is not mounted, because it is new, was unmounted or could
not be mounted, refuses all that is asked of it but to mount or to format.
Nothing is touched, neither the volume nor its device nor the events. It
tells that there is no device, unless the arguments are such that no volume
takes them: then it tells that. -/
theorem refuses_of_dismounted {request : Request α}
    (other : AboutFiles request ∨ IsUnmount request) {site : Site Volume σ}
    (down : Dismounted site ∨ site.driver.mounted = none) :
    ∃ fault, (Volume.serve request).run site = .refused fault site
      ∧ Told request fault :=
  run_serve_of_unmounted (down.elim mounted_of_dismounted id) other

end

/-- A new volume on a blank disk. -/
def unused : Site Volume RamDisk := ⟨.fresh, ⟨⟨128, 32, ∅⟩, []⟩⟩

/-- It has no file to be read. -/
theorem refuses_of_dismounted_sample :
    (AboutFiles (.read 0 1 none) ∨ IsUnmount (.read 0 1 none))
      ∧ Dismounted unused
      ∧ (Volume.serve (.read 0 1 none)).run unused
        = .refused .noDevice unused
      ∧ Told (.read 0 1 none) .noDevice := by
  have other : AboutFiles (.read 0 1 none) ∨ IsUnmount (.read 0 1 none) :=
    .inl trivial
  have new : Dismounted unused := .fresh _
  obtain ⟨fault, run, told⟩ := refuses_of_dismounted other (.inl new)
  cases run
  exact ⟨other, new, rfl, told⟩

/-- There is no device, and a new volume tells something else when it is
asked to open a file for nothing or to remove the root. -/
theorem refuses_flawed :
    unused.driver.mounted = none
      ∧ (Volume.serve (.openFile "/f" ⟨0⟩ 0)).run unused
        = .refused .invalidArgument unused
      ∧ (Volume.serve (.removeDirectory "/")).run unused
        = .refused .invalidArgument unused
      ∧ ¬ ∀ request : Request FileId, AboutFiles request →
        (Volume.serve request).run unused = .refused .noDevice unused := by
  refine ⟨rfl, rfl, by decide +kernel, fun always => ?_⟩
  nomatch always (.openFile "/f" ⟨0⟩ 0) trivial

end MountSpace.Proofs.Volumes
