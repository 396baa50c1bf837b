import Mathlib.Algebra.Group.Nat.Defs
import MountSpace.Proofs.Volumes.PlannedFiles

/-!
# `MountSpace.Proofs.Volumes.Census`: which file is which

Neither a tree nor an open file says which file is which: both know paths
only. A census is kept beside a mounted volume to tell files apart. A file
gets an identity when it is made, and has it until it is unlinked or
another file is moved to its path, whatever is written to it and wherever
it is moved. No program looks at a census.

* `Census.next`: what a request that is done does to a census.
* `Accounts`: a census knows the files that there are, and for every open
  file the path at which the file is that was opened, if it still is
  there.
* `Accounts.make`, `Accounts.opening`, `Accounts.remove`,
  `Accounts.move`: the four ways in which files come, go and move keep
  accounts in order.
-/

set_option autoImplicit false

namespace MountSpace.Proofs.Volumes

open Trees (fileAt)
open Mounted (moved)

/-- What tells a file from all others. Files that are there at the start
are born at the same time at different paths. -/
structure Identity where
  born : Nat
  path : List String
  deriving DecidableEq

/-- What is known of the files of a mounted volume. -/
structure Census where
  /-- The file at each path. -/
  owner : List String → Option Identity
  /-- The number of files that have been made. -/
  made : Nat
  /-- The file that was opened under each number. -/
  opened : FileId → Option Identity
  /-- The number of times that a file was opened. -/
  opens : Nat

namespace Census

/-- Each file that is there at the start is a file of its own. -/
def start (root : Tree) : Census where
  owner path := if (fileAt root path).isSome then some ⟨0, path⟩ else none
  made := 0
  opened _ := none
  opens := 0

/-- A new file is made at a path. -/
def make (census : Census) (path : List String) : Census :=
  { census with
    owner := fun other =>
      if other = path then some ⟨census.made + 1, path⟩
      else census.owner other
    made := census.made + 1 }

/-- The file at a path is opened under a number. -/
def opening (census : Census) (path : List String) (file : FileId) :
    Census :=
  { census with
    opened := fun other =>
      if other = file then census.owner path else census.opened other
    opens := census.opens + 1 }

/-- The file at a path is gone. -/
def remove (census : Census) (path : List String) : Census :=
  { census with
    owner := fun other => if other = path then none else census.owner other }

/-- The files at the source and below it are at the target and below it,
and the file that was there is gone. -/
def move (census : Census) (source target : List String) : Census :=
  { census with
    owner := fun path =>
      (movedFrom source target path).bind census.owner }

/-- The names that a text leads through. -/
def pathOf (text : String) : List String :=
  (Volume.names text).toOption.getD []

/-- The census after a request that is done, with its answer. A file that
is opened is made if there is none. -/
def next (census : Census) : {α : Type} → Request α → α → Census
  | _, .openFile text _ _, file =>
    let path := pathOf text
    let census :=
      if (census.owner path).isSome then census else census.make path
    census.opening path file
  | _, .unlink text, _ => census.remove (pathOf text)
  | _, .rename source target, _ =>
    census.move (pathOf source) (pathOf target)
  | _, _, _ => census

end Census

/-! ### Accounts -/

/-- A census is in order for a tree with files at these paths and for these
open files, if the next one gets this number. -/
structure Accounts (census : Census) (files : List String → Bool)
    (handles : Keyed FileId Handle) (nextId : FileId) : Prop where
  files : ∀ path, (census.owner path).isSome = files path
  /-- No file is at two paths. -/
  apart : ∀ {path other identity}, census.owner path = some identity →
    census.owner other = some identity → path = other
  /-- All files have been made already. -/
  ownerBorn : ∀ {path identity}, census.owner path = some identity →
    identity.born ≤ census.made
  openedBorn : ∀ {file identity}, census.opened file = some identity →
    identity.born ≤ census.made
  /-- The file that was opened is at the path of the open file, or
  nowhere. -/
  follows : ∀ {file handle}, (file, handle) ∈ handles →
    ∃ identity, census.opened file = some identity
      ∧ ∀ path, census.owner path = some identity → path = handle.path
  /-- All numbers that were given come before the next one. -/
  numbered : ∀ {file identity}, census.opened file = some identity →
    ∃ back, 0 < back ∧ back ≤ census.opens
      ∧ file + UInt32.ofNat back = nextId

section

variable {census : Census} {files : List String → Bool}
  {handles : Keyed FileId Handle} {nextId : FileId} {path : List String}

/-- Nothing has been opened at the start. -/
theorem accounts_start (root : Tree) (nextId : FileId) :
    Accounts (.start root) (fun path => (fileAt root path).isSome) []
      nextId where
  files path := by
    show (if (fileAt root path).isSome then some _ else none).isSome = _
    split <;> simp_all
  apart := by
    intro path other identity owns ownsOther
    simp only [Census.start, Option.ite_none_right_eq_some,
      Option.some.injEq] at owns ownsOther
    rw [← owns.2] at ownsOther
    exact (congrArg Identity.path ownsOther.2).symm
  ownerBorn := by
    intro path identity owns
    simp only [Census.start, Option.ite_none_right_eq_some,
      Option.some.injEq] at owns
    rw [← owns.2]
    exact Nat.le_refl 0
  openedBorn := nofun
  follows member := nomatch member
  numbered := nofun

/-- A census stays in order as long as the same files are open at the same
paths. -/
theorem Accounts.congr (accounts : Accounts census files handles nextId)
    {others : Keyed FileId Handle}
    (same : ∀ file handle, (file, handle) ∈ others →
      ∃ old, (file, old) ∈ handles ∧ handle.path = old.path) :
    Accounts census files others nextId := by
  refine { accounts with follows := fun {file handle} member => ?_ }
  obtain ⟨old, listed, path⟩ := same file handle member
  rw [path]
  exact accounts.follows listed

/-- A new file is none of those that have been opened. -/
theorem Accounts.make (accounts : Accounts census files handles nextId)
    (path : List String) :
    Accounts (census.make path)
      (fun other => decide (other = path) || files other) handles nextId where
  files other := by
    show (if other = path then some _ else census.owner other).isSome = _
    by_cases same : other = path <;> simp [same, accounts.files]
  apart := by
    intro first second identity owns ownsOther
    simp only [Census.make] at owns ownsOther
    split at owns <;> split at ownsOther
    · simp_all
    · cases owns
      have born := accounts.ownerBorn ownsOther
      exact absurd born (Nat.not_succ_le_self census.made)
    · cases ownsOther
      have born := accounts.ownerBorn owns
      exact absurd born (Nat.not_succ_le_self census.made)
    · exact accounts.apart owns ownsOther
  ownerBorn := by
    intro other identity owns
    simp only [Census.make] at owns ⊢
    split at owns
    · cases owns
      exact Nat.le_refl _
    · exact Nat.le_succ_of_le (accounts.ownerBorn owns)
  openedBorn opened := Nat.le_succ_of_le (accounts.openedBorn opened)
  follows := by
    intro file handle member
    obtain ⟨identity, opened, follows⟩ := accounts.follows member
    refine ⟨identity, opened, fun other owns => ?_⟩
    simp only [Census.make] at owns
    split at owns
    · cases owns
      have born := accounts.openedBorn opened
      exact absurd born (Nat.not_succ_le_self census.made)
    · exact follows other owns
  numbered := accounts.numbered

/-- A number that is given was not given before, unless all have been
given. -/
theorem Accounts.opened_eq_none
    (accounts : Accounts census files handles nextId)
    (few : census.opens < 2 ^ 32) : census.opened nextId = none := by
  rw [Option.eq_none_iff_forall_ne_some]
  intro identity opened
  obtain ⟨back, some, few', same⟩ := accounts.numbered opened
  have same := congrArg UInt32.toNat same
  rw [UInt32.toNat_add, UInt32.toNat_ofNat'] at same
  have small := nextId.toNat_lt
  omega

/-- The file at a path is opened. -/
theorem Accounts.opening (accounts : Accounts census files handles nextId)
    {path : List String} (isFile : files path = true)
    (few : census.opens < 2 ^ 32) (flags : OpenFlags) :
    Accounts (census.opening path nextId) files
      (Keyed.insert handles nextId ⟨path, flags, 0⟩) (nextId + 1) where
  files := accounts.files
  apart := accounts.apart
  ownerBorn := accounts.ownerBorn
  openedBorn := by
    intro file identity opened
    simp only [Census.opening] at opened
    split at opened
    · exact accounts.ownerBorn opened
    · exact accounts.openedBorn opened
  follows := by
    intro file handle member
    have fresh := accounts.opened_eq_none few
    cases Keyed.mem_of_mem_insert member with
    | inl new =>
      cases new
      obtain ⟨identity, owns⟩ := Option.isSome_iff_exists.mp
        ((accounts.files path).trans isFile)
      refine ⟨identity, ?_, fun other ownsOther =>
        accounts.apart ownsOther owns⟩
      simpa only [Census.opening, if_pos] using owns
    | inr old =>
      obtain ⟨identity, opened, follows⟩ := accounts.follows old
      -- No file that is open already has the new number.
      have different : file ≠ nextId := by
        rintro rfl
        rw [fresh] at opened
        nomatch opened
      refine ⟨identity, ?_, follows⟩
      simpa only [Census.opening, if_neg different] using opened
  numbered := by
    intro file identity opened
    simp only [Census.opening] at opened ⊢
    split at opened
    · next same =>
      exact ⟨1, Nat.one_pos, Nat.le_add_left 1 _, same ▸ rfl⟩
    · obtain ⟨back, some, few', same⟩ := accounts.numbered opened
      refine ⟨back + 1, Nat.succ_pos _, Nat.succ_le_succ few', ?_⟩
      rw [UInt32.ofNat_add, ← UInt32.add_assoc, same]
      rfl

/-- The file at a path is gone, and no open file has another one. -/
theorem Accounts.remove (accounts : Accounts census files handles nextId)
    (path : List String) :
    Accounts (census.remove path)
      (fun other => decide (other ≠ path) && files other) handles
      nextId := by
  have before {other identity}
      (owns : (census.remove path).owner other = some identity) :
      other ≠ path ∧ census.owner other = some identity := by
    simpa only [Census.remove, Option.ite_none_left_eq_some] using owns
  exact {
    files := fun other => by
      show (if other = path then none else census.owner other).isSome = _
      by_cases same : other = path <;> simp [same, accounts.files]
    apart := fun owns ownsOther =>
      accounts.apart (before owns).2 (before ownsOther).2
    ownerBorn := fun owns => accounts.ownerBorn (before owns).2
    openedBorn := accounts.openedBorn
    follows := fun member => by
      obtain ⟨identity, opened, follows⟩ := accounts.follows member
      exact ⟨identity, opened, fun other owns =>
        follows other (before owns).2⟩
    numbered := accounts.numbered }

/-- What was taken along comes to where it is looked for. -/
theorem moved_of_movedFrom {source target path origin : List String}
    (comes : movedFrom source target path = some origin) :
    moved source target origin = path := by
  by_cases prefixed : target <+: path
  · obtain ⟨rest, rfl⟩ := prefixed
    rw [movedFrom_append] at comes
    cases comes
    exact moved_append rest
  · rw [movedFrom_of_apart prefixed] at comes
    split at comes
    · nomatch comes
    · next apart =>
      cases comes
      exact moved_of_apart apart

/-- Files are moved, and the open files with them. -/
theorem Accounts.move (accounts : Accounts census files handles nextId)
    (source target : List String) {others : Keyed FileId Handle}
    (along : ∀ file handle, (file, handle) ∈ others →
      ∃ old, (file, old) ∈ handles
        ∧ handle.path = moved source target old.path) :
    Accounts (census.move source target)
      (fun path => match movedFrom source target path with
        | some origin => files origin
        | none => false)
      others nextId := by
  have before {path identity}
      (owns : (census.move source target).owner path = some identity) :
      ∃ origin, moved source target origin = path
        ∧ census.owner origin = some identity := by
    obtain ⟨origin, comes, owns⟩ := Option.bind_eq_some_iff.mp owns
    exact ⟨origin, moved_of_movedFrom comes, owns⟩
  refine ⟨fun path => ?_, ?_, ?_, accounts.openedBorn, ?_,
    accounts.numbered⟩
  · simp only [Census.move]
    cases movedFrom source target path with
    | none => rfl
    | some origin => exact accounts.files origin
  · intro path other identity owns ownsOther
    obtain ⟨origin, goes, came⟩ := before owns
    obtain ⟨originOther, goesOther, cameOther⟩ := before ownsOther
    rw [← goes, ← goesOther, accounts.apart came cameOther]
  · intro path identity owns
    obtain ⟨_, _, came⟩ := before owns
    exact accounts.ownerBorn came
  · intro file handle member
    obtain ⟨old, listed, goes⟩ := along file handle member
    obtain ⟨identity, opened, follows⟩ := accounts.follows listed
    refine ⟨identity, opened, fun path owns => ?_⟩
    obtain ⟨origin, wentTo, came⟩ := before owns
    rw [goes, ← wentTo, follows origin came]

end

end MountSpace.Proofs.Volumes
