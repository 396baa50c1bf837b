import MountSpace.Proofs.Trees.Lookups
import MountSpace.Proofs.Volumes.Nodes
import MountSpace.Proofs.Volumes.PlannedFiles

/-!
# `MountSpace.Proofs.Volumes.Renames`: what a move leaves

A move takes what is at one path out of a tree and puts it at another path.
The second edit finds the way to its path as it was, because neither path
leads to the other one: a place below the source is refused, and a directory
above the source is not empty, so nothing takes its place.

* `Relocated`: the tree after a move, node by node.
* `relocated_of_edits`: the two edits come to that.
* `rename_moves`: a move that is done relocates what is at its source, and
  the open files with it, and nothing else is lost.
-/

set_option autoImplicit false

namespace MountSpace.Proofs.Volumes

open Effects Storage Trees
open Mounted (mayReplace moved)

/-- A path on the way to one of two places, and not all the way to either of
them. -/
structure Leads (source target path : List String) : Prop where
  notSource : path ≠ source
  notTarget : path ≠ target
  way : path <+: source ∨ path <+: target

/-- A tree after what was at the source has gone to the target. -/
structure Relocated (source target : List String) (root after : Tree) :
    Prop where
  /-- What was at the source or below it is at the target or below it. -/
  along : ∀ rest, after.lookup (target ++ rest) = root.lookup (source ++ rest)
  /-- Nothing is left at the source. -/
  gone : ∀ rest, after.lookup (source ++ rest) = .error .notFound
  /-- What is not on the way to one of the two, nor at it or below it, stays
  as it is. -/
  elsewhere : ∀ path, Apart source path → Apart target path →
    after.lookup path = root.lookup path
  /-- The directories on the way keep their names. One of them loses the
  last name of the source, and one has the last name of the target. -/
  above : ∀ path, Leads source target path →
    ∃ entries others, root.lookup path = .ok (.directory entries)
      ∧ after.lookup path = .ok (.directory others)
      ∧ ∀ name, name ∈ Keyed.keys others
        ↔ path ++ [name] = target
          ∨ name ∈ Keyed.keys entries ∧ path ++ [name] ≠ source

/-- What a move to the target may find there: nothing, or a file if it moves
a file, or an empty directory if it moves a directory. -/
inductive Replaceable (source target : List String) (root : Tree) :
    Prop where
  | nothing : root.lookup target = .error .notFound →
    Replaceable source target root
  | file {old new : Bytes} : root.lookup target = .ok (.file old) →
    root.lookup source = .ok (.file new) → Replaceable source target root
  | directory {entries : Keyed String Tree} :
    root.lookup target = .ok (.directory []) →
    root.lookup source = .ok (.directory entries) →
    Replaceable source target root

section

variable {root without after tree : Tree} {source target path : List String}

/-! ### Directories on the way -/

theorem Leads.symm (leads : Leads source target path) :
    Leads target source path :=
  ⟨leads.notTarget, leads.notSource, leads.way.symm⟩

/-- Nothing on the way is in what is moved. -/
theorem Leads.outside (leads : Leads source target path)
    (apart : Apart source target) : ¬ source <+: path := by
  intro prefixed
  rcases leads.way with way | way
  · exact leads.notSource (way.eq_of_length_le prefixed.length_le)
  · exact apart.1 (prefixed.trans way)

/-- One step from the way there is what is moved, or something beside
it. -/
theorem Leads.outside_entry (leads : Leads source target path)
    (apart : Apart source target) {name : String}
    (other : path ++ [name] ≠ source) : ¬ source <+: path ++ [name] := by
  intro prefixed
  rcases List.prefix_concat_iff.mp prefixed with same | shorter
  · exact other same.symm
  · exact leads.outside apart shorter

/-! ### Two edits -/

/-- A directory from which a path goes on is not empty. -/
theorem not_present_of_replaceable
    (replaceable : Replaceable source target root) (name : String)
    (rest : List String) : ¬ Present root (target ++ name :: rest) := by
  cases replaceable with
  | nothing missing =>
    rintro ⟨tree, found⟩
    rw [lookup_append, missing] at found
    nomatch found
  | file found _ =>
    rw [present_append found]
    exact not_present_file
  | directory found _ =>
    rw [present_append found]
    exact not_present_empty

theorem replaceable_of_mayReplace (found : root.lookup source = .ok tree)
    (allowed : mayReplace tree (root.lookup target) = .ok ()) :
    Replaceable source target root := by
  cases there : root.lookup target with
  | error fault =>
    rw [there] at allowed
    cases fault with
    | notFound => exact .nothing there
    | _ => nomatch allowed
  | ok old =>
    rw [there] at allowed
    cases old with
    | file data =>
      cases tree with
      | file new => exact .file there found
      | directory entries => nomatch allowed
    | directory others =>
      cases tree with
      | file new => nomatch allowed
      | directory entries =>
        cases others with
        | nil => exact .directory there found
        | cons entry rest => nomatch allowed

/-- Nothing takes the place of a directory above it. -/
theorem not_prefix_of_replaceable (found : root.lookup source = .ok tree)
    (replaceable : Replaceable source target root)
    (different : source ≠ target) : ¬ target <+: source := by
  rintro ⟨rest, rfl⟩
  cases rest with
  | nil => exact different (List.append_nil target)
  | cons name rest =>
    exact not_present_of_replaceable replaceable name rest ⟨tree, found⟩

/-- What is a directory on the way is one between the two edits of a move,
and after them. -/
theorem Leads.directory {below others : List String → Except Fault Tree}
    (leads : Leads source target path) (apart : Apart source target)
    (taken : Edited source below root without)
    (put : Edited target others without after) :
    DirectoryAt root path ∧ DirectoryAt after path := by
  by_cases first : path <+: source
  · obtain ⟨before, between⟩ := taken.above path first leads.notSource
    by_cases second : path <+: target
    · exact ⟨before, (put.above path second leads.notTarget).2⟩
    · have outside := leads.symm.outside apart.symm
      rw [DirectoryAt, ← put.apart path ⟨outside, second⟩] at between
      exact ⟨before, between⟩
  · have second := leads.way.resolve_left first
    obtain ⟨between, since⟩ := put.above path second leads.notTarget
    have outside := leads.outside apart
    rw [DirectoryAt, taken.apart path ⟨outside, first⟩] at between
    exact ⟨between, since⟩

/-- To take a tree out and to put it elsewhere is to move it. -/
theorem relocated_of_edits (found : root.lookup source = .ok tree)
    (apart : Apart source target)
    (taken : Edited source (fun _ => .error .notFound) root without)
    (put : Edited target tree.lookup without after) :
    Relocated source target root after := by
  constructor
  · intro rest
    rw [put.within, lookup_append, found]
    rfl
  · intro rest
    rw [put.apart _ (apart.symm.append rest), taken.within]
  · intro path fromSource fromTarget
    rw [put.apart path fromTarget, taken.apart path fromSource]
  · intro path leads
    obtain ⟨⟨entries, before⟩, ⟨others, since⟩⟩ :=
      leads.directory apart taken put
    refine ⟨entries, others, before, since, fun name => ?_⟩
    rw [mem_keys_iff_present before, mem_keys_iff_present since]
    -- One step from the way there is the target, or the source, or another
    -- node.
    by_cases atTarget : path ++ [name] = target
    · simpa [atTarget] using put.present_self.mpr ⟨tree, rfl⟩
    rw [put.present_iff (leads.symm.outside_entry apart.symm atTarget)]
    by_cases atSource : path ++ [name] = source
    · simp [atSource, apart.ne, taken.present_self]
    rw [taken.present_iff (leads.outside_entry apart atSource)]
    simp [atTarget, atSource]

/-- What is not moved is still there, other than what the move takes the
place of. -/
theorem present_of_edits {below others : List String → Except Fault Tree}
    (replaceable : Replaceable source target root)
    (taken : Edited source below root without)
    (put : Edited target others without after)
    (present : Present root path) (outside : ¬ source <+: path)
    (different : path ≠ target) : Present after path := by
  have outsideTarget : ¬ target <+: path := by
    rintro ⟨rest, rfl⟩
    cases rest with
    | nil => exact different (List.append_nil target)
    | cons name rest =>
      exact not_present_of_replaceable replaceable name rest present
  rw [put.present_iff outsideTarget, taken.present_iff outside]
  exact present

end

/-! ### Moves -/

/-- What is mounted after a move from one path to another one. -/
structure Moves (source target : List String) (before after : Mounted) :
    Prop where
  /-- Neither path leads to the other one. -/
  apart : Apart source target
  tree : Relocated source target before.root after.root
  /-- The only thing that can be lost is what was at the target: a file for
  a file, an empty directory for a directory. -/
  replaceable : Replaceable source target before.root
  stays : ∀ path, Present before.root path → ¬ source <+: path →
    path ≠ target → Present after.root path
  /-- Open files go along with what is moved, and the others stay. -/
  along : ∀ file rest flags cursor,
    Keyed.get? before.handles file = some ⟨source ++ rest, flags, cursor⟩ →
    Keyed.get? after.handles file = some ⟨target ++ rest, flags, cursor⟩
  untouched : ∀ file handle, Keyed.get? before.handles file = some handle →
    ¬ source <+: handle.path →
    Keyed.get? after.handles file = some handle
  closed : ∀ file, Keyed.get? before.handles file = none →
    Keyed.get? after.handles file = none
  nextId : after.nextId = before.nextId
  geometry : after.geometry = before.geometry

variable {mounted : Mounted} {source target : List String}

/-- What is planned for two different paths is a move. -/
theorem moves_of_rename {plan : Plan Unit} (isRoot : IsRoot mounted.root)
    (different : source ≠ target)
    (made : mounted.rename source target = .ok plan) :
    Moves source target mounted plan.next := by
  cases rename_eq_ok made with
  | stay _ same => exact absurd same different
  | move found _ outside allowed remove put =>
    have replaceable := replaceable_of_mayReplace found allowed
    have apart : Apart source target :=
      ⟨outside, not_prefix_of_replaceable found replaceable different⟩
    have taken := edited_remove isRoot.formed remove
    have put := edited_put put
    have handles (file : FileId) := Keyed.get?_map
      (fun handle : Handle =>
        { handle with path := moved source target handle.path })
      mounted.handles file
    refine ⟨apart, relocated_of_edits found apart taken put, replaceable,
      fun path => present_of_edits replaceable taken put, ?_, ?_, ?_, rfl,
      rfl⟩
    · intro file rest flags cursor known
      refine (handles file).trans ?_
      rw [known, Option.map_some, moved_append]
    · intro file handle known beside
      refine (handles file).trans ?_
      rw [known, Option.map_some, moved_of_apart beside]
    · intro file none
      refine (handles file).trans ?_
      rw [none, Option.map_none]

variable {σ : Type} [BlockDevice σ]

/-- Whatever has been asked of a volume before, a move between two different
paths that is done takes everything at the one path to the other, with the
files that are open there, and what is not on the way stays as it is. What
is lost is at most a file for a file, or an empty directory for a directory.
No move leads to a place below its source or above it. -/
theorem rename_moves {site : Site Volume σ} (operated : Operated site)
    {before : Mounted} (known : site.driver.mounted = some before)
    {oldPath newPath : String} (old : Volume.names oldPath = .ok source)
    (new : Volume.names newPath = .ok target) (different : source ≠ target) :
    (∀ after, (Volume.serve (.rename oldPath newPath)).run site
        = .done () after →
      ∃ next, after.driver = ⟨some next⟩ ∧ Moves source target before next)
    ∧ (source <+: target ∨ target <+: source →
      ∀ after, (Volume.serve (.rename oldPath newPath)).run site
        ≠ .done () after) := by
  have moves : ∀ after, (Volume.serve (.rename oldPath newPath)).run site
      = .done () after →
      ∃ next, after.driver = ⟨some next⟩
        ∧ Moves source target before next := by
    intro after run
    have isRoot := (operated.contained before known).isRoot
    obtain ⟨plan, made, run⟩ := planned_of_done run trivial
    obtain ⟨_, driver, _⟩ := performed_of_done run
    obtain ⟨_, named, made⟩ := bind_eq_ok_iff.mp made
    cases old.symm.trans named
    obtain ⟨_, named, made⟩ := bind_eq_ok_iff.mp made
    cases new.symm.trans named
    split at made
    · nomatch made
    · obtain ⟨mounted, isMounted, made⟩ := bind_eq_ok_iff.mp made
      cases known.symm.trans (current_eq_ok_iff.mp isMounted)
      exact ⟨plan.next, driver, moves_of_rename isRoot different made⟩
  refine ⟨moves, fun related after run => ?_⟩
  obtain ⟨next, _, moves⟩ := moves after run
  rcases related with below | above
  · exact moves.apart.1 below
  · exact moves.apart.2 above

/-- A disk with two directories, and a file that is open in the first
one. -/
def arranged : Option (Site Volume RamDisk) :=
  askedAll [⟨_, .format⟩, ⟨_, .mount⟩, ⟨_, .makeDirectory "a"⟩,
      ⟨_, .makeDirectory "b"⟩,
      ⟨_, .openFile "a/f" (.write ||| .create) 0⟩,
      ⟨_, .write 0 [1, 2] none⟩]
    ⟨.fresh, ⟨⟨256, 32, ∅⟩, []⟩⟩

/-- The first directory goes into the second one, with the open file. -/
theorem rename_moves_sample :
    ∃ (site after : Site Volume RamDisk) (before next : Mounted),
      Operated site ∧ site.driver.mounted = some before
      ∧ (["a"] : List String) ≠ ["b", "c"]
      ∧ Volume.names "a" = .ok ["a"] ∧ Volume.names "b/c" = .ok ["b", "c"]
      ∧ (Volume.serve (.rename "a" "b/c")).run site = .done () after
      ∧ after.driver = ⟨some next⟩
      ∧ Keyed.get? next.handles 0
        = some ⟨["b", "c", "f"], .write ||| .create, 2⟩
      ∧ next.root.lookup ["b", "c", "f"] = .ok (.file [1, 2])
      ∧ next.root.lookup ["a"] = .error .notFound := by
  have shape : arranged.any (fun site =>
      site.driver.mounted.any (fun mounted =>
        Keyed.get? mounted.handles 0
          = some ⟨["a", "f"], .write ||| .create, 2⟩
        ∧ fileAt mounted.root ["a", "f"] = some [1, 2])
      ∧ ((Volume.serve (.rename "a" "b/c")).run site).reply?
        = some (.ok ())) := by
    decide +kernel
  obtain ⟨site, left, known⟩ := (Option.any_eq_true _ _).mp shape
  obtain ⟨known, reply⟩ := of_decide_eq_true known
  obtain ⟨before, isMounted, known⟩ := (Option.any_eq_true _ _).mp known
  obtain ⟨handle, file⟩ := of_decide_eq_true known
  have operated : Operated site := (Operated.fresh _).askedAll left
  have old : Volume.names "a" = .ok ["a"] := by decide
  have new : Volume.names "b/c" = .ok ["b", "c"] := by decide
  have different : (["a"] : List String) ≠ ["b", "c"] := by decide
  obtain ⟨after, run⟩ := eq_done_of_reply? reply
  obtain ⟨next, driver, moves⟩ :=
    (rename_moves operated isMounted old new different).1 after run
  refine ⟨site, after, before, next, operated, isMounted, different, old,
    new, run, driver, moves.along 0 ["f"] _ _ handle, ?_, moves.tree.gone []⟩
  exact (moves.tree.along ["f"]).trans (fileAt_eq_some_iff.mp file)

end MountSpace.Proofs.Volumes
