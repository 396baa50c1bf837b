import MountSpace.Proofs.Paths.Children
import MountSpace.Proofs.Routing.Lookup

/-!
# `MountSpace.Proofs.Routing.Children`: a path and its directory

A path and the directory that it is in lie under the same mount, unless
something is mounted at the path itself.

* `mem_children_iff`, `mem_children_iff_child`: of all names in a directory,
  the table lists those at which something is mounted. `nodup_children`: it
  lists each of them once.
* `find_of_mem`: at such a path the root of another volume is found.
* `find_of_not_mem`: everywhere else the volume of the directory is found,
  and one name more is left.
* `listed_iff_mounted`: paths fall into directories and names, and a name
  space in use lists for a directory the names of the mounts in it.
-/

set_option autoImplicit false

namespace MountSpace.Proofs.Routing

open NameSpaces (Reachable afterAll)
open MountSpace.Path (segments)
open MountSpace.Tree (IsName)
open Paths (IsNormal child_isNormal child_parent eq_of_parent_eq
  resolve_eq_child segments_parent)

variable {ρ : Type} {mounts : MountTable ρ} {directory path name : String}

/-! ### The names that are listed -/

/-- The names that are listed are those of the mounts in the directory. -/
theorem mem_children_iff_exists :
    name ∈ mounts.children directory
      ↔ ∃ mount ∈ mounts, mount.path ≠ "/"
        ∧ Path.parent mount.path = directory
        ∧ Path.fileName mount.path = some name := by
  simp [MountTable.children, List.mem_filterMap, and_assoc]

/-- The name of a path is listed for its directory when something is
mounted at the path. -/
theorem mem_children_iff (ordered : Ordered mounts) (normal : IsNormal path)
    (below : path ≠ "/") (named : Path.fileName path = some name) :
    name ∈ mounts.children (Path.parent path)
      ↔ path ∈ mounts.map Mount.path := by
  rw [mem_children_iff_exists, List.mem_map]
  constructor
  · rintro ⟨mount, member, belowMount, parents, last⟩
    exact ⟨mount, member, eq_of_parent_eq (ordered.normal mount member)
      belowMount normal below parents (last.trans named.symm)⟩
  · rintro ⟨mount, member, rfl⟩
    exact ⟨mount, member, below, rfl, named⟩

theorem isName_of_mem_children (ordered : Ordered mounts)
    (member : name ∈ mounts.children directory) : IsName name := by
  obtain ⟨mount, listed, below, _, named⟩ :=
    mem_children_iff_exists.mp member
  obtain ⟨_, last, isName, _⟩ :=
    segments_parent (ordered.normal mount listed) below
  cases named.symm.trans last
  exact isName

/-- A name is listed when it can be the name of an entry and something is
mounted at the path that is the name in the directory. -/
theorem mem_children_iff_child (ordered : Ordered mounts)
    (normal : IsNormal directory) :
    name ∈ mounts.children directory
      ↔ IsName name ∧ Path.child directory name ∈ mounts.map Mount.path := by
  have listed (isName : IsName name) :
      name ∈ mounts.children directory
        ↔ Path.child directory name ∈ mounts.map Mount.path := by
    obtain ⟨normalChild, below, parents, named⟩ :=
      child_isNormal normal isName
    have listed := mem_children_iff ordered normalChild below named
    rwa [parents] at listed
  constructor
  · intro member
    have isName := isName_of_mem_children ordered member
    exact ⟨isName, (listed isName).mp member⟩
  · intro ⟨isName, member⟩
    exact (listed isName).mpr member

/-- No name is listed twice: there is one path only that is this name in
this directory, and one mount at it. -/
theorem nodup_children (ordered : Ordered mounts) (directory : String) :
    (mounts.children directory).Nodup := by
  have distinct := List.pairwise_map.mp ordered.distinct
  rw [MountTable.children, List.Nodup, List.pairwise_filterMap]
  refine (distinct.filter _).imp_of_mem ?_
  intro mount other listed listedOther apart name named _ namedOther same
  subst same
  simp only [List.mem_filter, Bool.and_eq_true, decide_eq_true_eq,
    beq_iff_eq] at listed listedOther
  obtain ⟨member, below, parents⟩ := listed
  obtain ⟨memberOther, belowOther, parentsOther⟩ := listedOther
  exact apart (eq_of_parent_eq (ordered.normal mount member) below
    (ordered.normal other memberOther) belowOther
    (parents.trans parentsOther.symm) (named.trans namedOther.symm))

/-! ### The volume of a path and of its directory -/

/-- A path at which something is mounted is the root of that volume. -/
theorem find_of_mem {mount : Mount ρ} (ordered : Ordered mounts)
    (member : mount ∈ mounts) :
    mounts.find mount.path = .ok (mount, "/") := by
  have normal := ordered.normal mount member
  have above := List.prefix_refl (segments mount.path)
  cases found : mounts.find mount.path with
  | error fault =>
    have apart := ((find_eq_error_iff ordered normal).mp found).2
    exact absurd above (apart mount member)
  | ok answer =>
    obtain ⟨nearest, rest⟩ := answer
    obtain ⟨is, normalRest, names⟩ := find_eq_ok ordered normal found
    -- No mount above the path has more names than the path itself.
    have same : mount = nearest := by
      by_cases same : mount = nearest
      · exact same
      · have shorter := is.longest mount member above same
        have longer := is.above.length_le
        omega
    subst same
    have none : segments rest = [] := List.append_right_eq_self.mp names
    rw [normalRest.eq_ofNames, none]
    rfl

/-- Every other path lies under the same mount as its directory, one name
further down. -/
theorem find_of_not_mem (ordered : Ordered mounts) (normal : IsNormal path)
    (below : path ≠ "/") (named : Path.fileName path = some name)
    (free : path ∉ mounts.map Mount.path) {mount : Mount ρ} {rest : String}
    (found : mounts.find (Path.parent path) = .ok (mount, rest)) :
    ∃ further, mounts.find path = .ok (mount, further)
      ∧ IsNormal further
      ∧ segments further = segments rest ++ [name] := by
  obtain ⟨_, last, _, split⟩ := segments_parent normal below
  cases named.symm.trans last
  obtain ⟨nearest, _, names⟩ := find_eq_ok ordered normal.parent found
  -- What lies above the directory lies above the path, and the other way
  -- round unless it is a mount at the path.
  have above {other : Mount ρ}
      (higher : segments other.path <+: segments (Path.parent path)) :
      segments other.path <+: segments path := by
    rw [split]
    exact higher.trans (List.prefix_append _ _)
  have higher {other : Mount ρ} (member : other ∈ mounts)
      (prefixed : segments other.path <+: segments path) :
      segments other.path <+: segments (Path.parent path) := by
    rw [split] at prefixed
    cases List.prefix_concat_iff.mp prefixed with
    | inr higher => exact higher
    | inl same =>
      have here := (ordered.normal other member).ext normal
        (same.trans split.symm)
      exact absurd (here ▸ List.mem_map_of_mem member) free
  cases lookup : mounts.find path with
  | error fault =>
    have apart := ((find_eq_error_iff ordered normal).mp lookup).2
    exact absurd (above nearest.above) (apart mount nearest.member)
  | ok answer =>
    obtain ⟨other, further⟩ := answer
    obtain ⟨is, normalFurther, namesOther⟩ :=
      find_eq_ok ordered normal lookup
    have same : other = mount := nearest.eq ⟨is.member,
      higher is.member is.above,
      fun found member aboveFound => is.longest found member
        (above aboveFound)⟩
    subst same
    refine ⟨further, rfl, normalFurther, ?_⟩
    rw [split, ← names, List.append_assoc] at namesOther
    exact List.append_cancel_left namesOther

/-! ### Directories of name spaces -/

/-- Paths fall into directories and names. An absolute path in normal form,
other than the root, is its last name in a directory that is such a path
again, with one name less. As text it is the name behind the directory, with
a slash between them, and it is where the name leads from there. So what a
name space in use lists for a directory are the names of the mounts in it,
each once: a name is listed when something is mounted at the path that is
the name in the directory. -/
theorem listed_iff_mounted {δ σ : Type} [Driver δ σ] :
    (∀ path, IsNormal path → path ≠ "/" →
      IsNormal (Path.parent path)
      ∧ ∃ name, Path.fileName path = some name
        ∧ IsName name
        ∧ segments path = segments (Path.parent path) ++ [name]
        ∧ Path.child (Path.parent path) name = path
        ∧ Path.resolve (Path.parent path) name = path
        ∧ Path.depth path = Path.depth (Path.parent path) + 1)
    ∧ ∀ {others : World δ σ → World δ σ → Prop} {space : NameSpace δ σ},
      Reachable others space → ∀ directory, IsNormal directory →
        (space.mounts.children directory).Nodup
        ∧ ∀ name, name ∈ space.mounts.children directory
          ↔ IsName name ∧ ∃ mount ∈ space.mounts,
            mount.path = Path.child directory name := by
  constructor
  · intro path normal below
    obtain ⟨name, named, isName, split⟩ := segments_parent normal below
    have back := child_parent normal below named
    refine ⟨normal.parent, name, named, isName, split, back, ?_, ?_⟩
    · rw [resolve_eq_child normal.parent isName, back]
    · rw [Path.depth, split, List.length_append]
      rfl
  · intro others space reachable directory normal
    have ordered := (routed_of_reachable reachable).ordered
    refine ⟨nodup_children ordered directory, fun name => ?_⟩
    rw [mem_children_iff_child ordered normal, List.mem_map]

/-- Two volumes in the root, and one more in one of them. -/
def branching : List (Command Scratch Unit) :=
  [.register "scratch" .fresh, .mount "/" 0 "scratch" true,
    .mount "/sd" 0 "scratch" true, .mount "/sd/dev1" 0 "scratch" true,
    .mount "/flash" 0 "scratch" true]

theorem listed_iff_mounted_sample :
    ∃ space : NameSpace Scratch RamDisk,
      Reachable (fun _ _ => True) space
      ∧ space.mounts.map Mount.path = ["/sd/dev1", "/sd", "/flash", "/"]
      ∧ IsNormal "/sd/dev1"
      ∧ Path.resolve (Path.parent "/sd/dev1") "dev1" = "/sd/dev1"
      ∧ Path.depth "/sd/dev1" = Path.depth "/sd" + 1
      ∧ IsNormal "/sd" ∧ "dev1" ∈ space.mounts.children "/sd"
      ∧ IsNormal "/" ∧ "sd" ∈ space.mounts.children "/"
      ∧ "dev1" ∉ space.mounts.children "/"
      ∧ (space.mounts.children "/").Nodup := by
  have shape : ((afterAll branching
        { (NameSpace.empty 1 : NameSpace Scratch RamDisk) with
          world := sampleWorld }).map fun space =>
      space.mounts.map Mount.path)
        = some ["/sd/dev1", "/sd", "/flash", "/"] := by
    decide +kernel
  obtain ⟨space, left, mounts⟩ := Option.map_eq_some_iff.mp shape
  have reachable : Reachable (fun _ _ => True) space :=
    ((Reachable.empty 1).outside sampleWorld trivial).afterAll left
  have normal : IsNormal "/sd/dev1" := by decide
  have above : IsNormal "/sd" := by decide
  have root : IsNormal "/" := by decide
  have mounted {path : String} :
      (∃ mount ∈ space.mounts, mount.path = path)
        ↔ path ∈ ["/sd/dev1", "/sd", "/flash", "/"] := by
    rw [← mounts, List.mem_map]
  obtain ⟨paths, tables⟩ := @listed_iff_mounted Scratch RamDisk _
  obtain ⟨_, name, named, _, _, _, leads, deeper⟩ :=
    paths "/sd/dev1" normal (by decide)
  have last : name = "dev1" :=
    Option.some.inj (named.symm.trans (by decide))
  rw [last] at leads
  have inside := (tables reachable "/sd" above).2 "dev1"
  obtain ⟨distinct, listed⟩ := tables reachable "/" root
  refine ⟨space, reachable, mounts, normal, leads, deeper, above,
    inside.mpr ⟨by decide, mounted.mpr (by decide)⟩, root,
    (listed "sd").mpr ⟨by decide, mounted.mpr (by decide)⟩, ?_, distinct⟩
  intro member
  exact absurd (mounted.mp ((listed "dev1").mp member).2) (by decide)

end MountSpace.Proofs.Routing
