import MountSpace.Proofs.Routing.Lookup

/-!
# `MountSpace.Proofs.Routing.Spelling`: only the resolved path matters

A path can be written in many ways. A command resolves each of its paths
against the working directory, some of them once and some of them again
after a driver has been asked, and goes on with what that gives.
`respell` changes the paths of a command; two commands whose paths become
the same by `Path.resolve` are two ways to write one command.

* `agree_lookup`, …: each operation on a path agrees with itself on another
  spelling (`Agree`). Between two uses of a path only drivers are asked and
  events noted, which leaves the working directory alone.
* `run_eq_of_respell_eq`: so commands in different spellings do the same,
  down to the events, the drivers and the devices.
-/

set_option autoImplicit false

namespace MountSpace.Proofs.Routing

open Effects NameSpaces
open MountSpace.NameSpace
open Paths (IsNormal isNormal_resolve)

variable {δ σ α : Type}

/-- A command with other paths. -/
def respell (change : String → String) : Command δ α → Command δ α
  | .mount path device fsType autoFormat =>
    .mount (change path) device fsType autoFormat
  | .unmount path => .unmount (change path)
  | .lookup path => .lookup (change path)
  | .changeDirectory path => .changeDirectory (change path)
  | .openFile path mode permissions =>
    .openFile (change path) mode permissions
  | .openDefault path => .openDefault (change path)
  | .stat path => .stat (change path)
  | .unlink path => .unlink (change path)
  | .makeDirectory path => .makeDirectory (change path)
  | .removeDirectory path => .removeDirectory (change path)
  | .remove path => .remove (change path)
  | .rename source target => .rename (change source) (change target)
  | .list path => .list (change path)
  | .pathExists path => .pathExists (change path)
  | .readWhole path => .readWhole (change path)
  | .writeWhole path data => .writeWhole (change path) data
  | command => command

/-! ### Two spellings of a path -/

/-- The working directory is the one that paths are resolved against. -/
def WorksIn (base : String) (space : NameSpace δ σ) : Prop :=
  space.directory = base

/-- No driver can change it, and no use of a descriptor. -/
theorem steady_worksIn [Driver δ σ] (base : String) :
    Steady (WorksIn base : NameSpace δ σ → Prop) :=
  OnlyRoutes.steady fun _ _ _ directory works => directory.trans works

section

variable {base path other : String}
  (same : Path.resolve base path = Path.resolve base other)

include same

theorem agree_resolve :
    Agree (WorksIn base) (resolve path : Action (NameSpace δ σ) String)
      (resolve other) := by
  rintro space rfl
  show Ending.done (Path.resolve space.directory path) space = _
  rw [same]
  rfl

theorem agree_lookup :
    Agree (WorksIn base)
      (lookup path : Action (NameSpace δ σ) (Mount DriverId × String))
      (lookup other) :=
  (agree_resolve same).followed _

variable [Driver δ σ]

theorem agree_stat :
    Agree (WorksIn base) (stat path : Action (NameSpace δ σ) Stat)
      (stat other) :=
  (agree_lookup same).followed _

theorem agree_openFile (mode : String) (permissions : UInt32) :
    Agree (WorksIn base)
      (openFile path mode permissions : Action (NameSpace δ σ) Nat)
      (openFile other mode permissions) := by
  refine (Agree.refl _ _).bind (keeps_ofExcept _) fun flags => ?_
  exact (agree_lookup same).followed _

/-- The directory that is listed is found a second time for what is mounted
in it. -/
theorem agree_list :
    Agree (WorksIn base)
      (list path : Action (NameSpace δ σ) (List String))
      (list other) := by
  refine (agree_lookup same).bind
    (keeps_lookup (steady_worksIn base).calm path) ?_
  rintro ⟨mount, rest⟩
  have asks : Keeps (WorksIn base)
      (call mount.driver (.list rest) : Action (NameSpace δ σ) _) :=
    (steady_worksIn base).files _ trivial
  refine (Agree.refl _ _).bind asks fun names => ?_
  exact (agree_resolve same).followed _

theorem agree_pathExists :
    Agree (WorksIn base) (pathExists path : Action (NameSpace δ σ) Bool)
      (pathExists other) :=
  (agree_stat same).attempt.followed _

/-- What is removed is looked up a second time. -/
theorem agree_remove :
    Agree (WorksIn base) (remove path : Action (NameSpace δ σ) Unit)
      (remove other) := by
  refine (agree_stat same).bind
    ((steady_worksIn base).stat path) fun found => ?_
  exact agree_ite ((agree_lookup same).followed _)
    ((agree_lookup same).followed _)

/-- The size of a file is asked for when it is open. -/
theorem agree_readWhole :
    Agree (WorksIn base) (readWhole path : Action (NameSpace δ σ) Bytes)
      (readWhole other) := by
  refine (agree_openFile same _ _).bind
    (keeps_openFile (steady_worksIn base) path _ _) fun descriptor => ?_
  have receives : Agree (WorksIn base)
      (receiveFile descriptor path : Action (NameSpace δ σ) Bytes)
      (receiveFile descriptor other) :=
    (agree_stat same).followed _
  exact receives.attempt.followed _

end

/-- Both paths of a move are looked up before anything is asked. -/
theorem agree_rename [Driver δ σ]
    {base source target otherSource otherTarget : String}
    (sameSource : Path.resolve base source = Path.resolve base otherSource)
    (sameTarget : Path.resolve base target = Path.resolve base otherTarget) :
    Agree (WorksIn base)
      (rename source target : Action (NameSpace δ σ) Unit)
      (rename otherSource otherTarget) := by
  refine (agree_lookup sameSource).bind
    (keeps_lookup (steady_worksIn base).calm source) ?_
  rintro ⟨mount, rest⟩
  exact (agree_lookup sameTarget).followed _

/-! ### Commands -/

variable [Driver δ σ]

/-- A command does what it does with its paths resolved beforehand. -/
theorem agree_respell {base : String} (normal : IsNormal base)
    (command : Command δ α) :
    Agree (WorksIn base)
      (run (respell (Path.resolve base) command) :
        Action (NameSpace δ σ) α)
      (run command) := by
  have same (path : String) :
      Path.resolve base (Path.resolve base path) = Path.resolve base path :=
    (isNormal_resolve normal.1 path).resolve base
  cases command with
  | mount path | unmount path | changeDirectory path =>
    exact (agree_resolve (same path)).followed _
  | lookup path => exact agree_lookup (same path)
  | openFile path | openDefault path =>
    exact agree_openFile (same path) _ _
  | stat path => exact agree_stat (same path)
  | unlink path | makeDirectory path | removeDirectory path =>
    exact (agree_lookup (same path)).followed _
  | remove path => exact agree_remove (same path)
  | rename source target => exact agree_rename (same source) (same target)
  | list path => exact agree_list (same path)
  | pathExists path => exact agree_pathExists (same path)
  | readWhole path => exact agree_readWhole (same path)
  | writeWhole path => exact (agree_openFile (same path) _ _).followed _
  | _ => exact Agree.refl _ _

/-- The working directory and the paths of all mounts are absolute and in
normal form. Two commands whose paths become the same when they are
resolved against the working directory end in the same way: with the same
answer or fault, and with all that they leave the same, mounts, descriptors,
drivers and devices. -/
theorem run_eq_of_respell_eq {others : World δ σ → World δ σ → Prop}
    {space : NameSpace δ σ} (reachable : Reachable others space) :
    (IsNormal space.directory ∧ ∀ mount ∈ space.mounts, IsNormal mount.path)
    ∧ ∀ {α : Type} (command other : Command δ α),
      respell (Path.resolve space.directory) command
          = respell (Path.resolve space.directory) other →
        (run command).run space = (run other).run space := by
  have routed := routed_of_reachable reachable
  refine ⟨⟨routed.directory, routed.ordered.normal⟩, ?_⟩
  intro α command other same
  calc (run command).run space
    _ = (run (respell (Path.resolve space.directory) command)).run space :=
      (agree_respell routed.directory command space rfl).symm
    _ = (run (respell (Path.resolve space.directory) other)).run space := by
      rw [same]
    _ = (run other).run space :=
      agree_respell routed.directory other space rfl

/-- A move from the working directory, with its paths in two spellings. -/
theorem run_eq_of_respell_eq_sample :
    ∃ space : NameSpace Scratch RamDisk,
      Reachable (fun _ _ => True) space
      ∧ space.directory = "/flash1"
      ∧ IsNormal space.directory
      ∧ respell (Path.resolve space.directory)
          (.rename "x" "../flash1/y" : Command Scratch Unit)
        = respell (Path.resolve space.directory)
          (.rename "/flash/../flash1//x" "./y")
      ∧ (rename "x" "../flash1/y").run space
        = (rename "/flash/../flash1//x" "./y").run space := by
  have shape : ((afterAll sampleCommands
        { (NameSpace.empty 1 : NameSpace Scratch RamDisk) with
          world := sampleWorld }).map NameSpace.directory)
        = some "/flash1" := by
    decide +kernel
  obtain ⟨space, left, directory⟩ := Option.map_eq_some_iff.mp shape
  have reachable : Reachable (fun _ _ => True) space :=
    ((Reachable.empty 1).outside sampleWorld trivial).afterAll left
  have source : Path.resolve "/flash1" "x"
      = Path.resolve "/flash1" "/flash/../flash1//x" := by
    decide
  have target : Path.resolve "/flash1" "../flash1/y"
      = Path.resolve "/flash1" "./y" := by
    decide
  have same : respell (Path.resolve space.directory)
        (.rename "x" "../flash1/y" : Command Scratch Unit)
      = respell (Path.resolve space.directory)
        (.rename "/flash/../flash1//x" "./y") := by
    rw [directory, respell, respell, source, target]
  obtain ⟨⟨normal, _⟩, agrees⟩ := run_eq_of_respell_eq reachable
  exact ⟨space, reachable, directory, normal, same,
    agrees (.rename "x" "../flash1/y") (.rename "/flash/../flash1//x" "./y")
      same⟩

end MountSpace.Proofs.Routing
