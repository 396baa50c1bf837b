import MountSpace.Proofs.Paths.Walks
import MountSpace.Proofs.Routing.Lookup

/-!
# `MountSpace.Proofs.Routing.Resolution`: paths seen from a directory

What a path means depends on its names and on the working directory, in
the way that somebody who walks along it would expect (`resolution`). So it
makes no difference whether one goes to a directory first and looks a path
up there, or looks up the path of the directory with the other one behind.
-/

set_option autoImplicit false

namespace MountSpace.Proofs.Routing

open Effects NameSpaces
open MountSpace.NameSpace
open MountSpace.Path (isAbsolute)
open MountSpace.Tree (IsName)
open Paths (Place isName_reached isName_walk normalize_normalize
  normalize_of_relative ofNames reached resolve_eq_ofNames resolve_resolve
  toList_ofNames written)

section

variable {δ σ : Type}

/-- A look-up is answered from the table of mounts. -/
theorem reply_lookup (path : String) (space : NameSpace δ σ) :
    ((lookup path).run space).reply?
      = some (space.mounts.find (Path.resolve space.directory path)) := by
  rw [run_lookup]
  cases space.mounts.find (Path.resolve space.directory path) <;> rfl

/-- Whoever has gone to a directory is there, and nothing has been mounted
or unmounted. -/
theorem routes_of_changeDirectory [Driver δ σ] {path : String}
    {space after : NameSpace δ σ}
    (run : (changeDirectory path).run space = .done () after) :
    after.mounts = space.mounts
      ∧ after.directory = Path.resolve space.directory path := by
  have routes : OnlyRoutes fun other : NameSpace δ σ =>
      other.mounts = space.mounts := by
    intro before later mounts _ same
    exact mounts.trans same
  -- What is looked at on the way keeps the mounts.
  have stays : Ensures (fun other => other = space)
      (requireDirectory (Path.resolve space.directory path))
      (fun _ other => other.mounts = space.mounts) (fun _ _ => True) :=
    (keeps_requireDirectory (routes.steady.stat _)).imp
      (fun _ same => congrArg NameSpace.mounts same)
      (fun _ _ mounts => mounts) (fun _ _ _ => trivial)
  have goes : Ensures (fun other => other = space) (changeDirectory path)
      (fun _ other => other.mounts = space.mounts
        ∧ other.directory = Path.resolve space.directory path)
      (fun _ _ => True) := by
    rintro other rfl
    refine ensures_bind stays ?_ other rfl
    intro _ later mounts
    exact ⟨mounts, rfl⟩
  have meets := goes space rfl
  rw [run] at meets
  exact meets

theorem toList_resolve {base : String} (absolute : isAbsolute base = true)
    (path : String) :
    (Path.resolve base path).toList
      = if reached base path = [] then ['/']
        else (reached base path).flatMap fun name => '/' :: name.toList := by
  rw [resolve_eq_ofNames absolute]
  split
  · next none =>
    rw [none]
    rfl
  · next some => exact toList_ofNames some

end

/-- What a path means, seen from an absolute directory. It leads from the
root down the names that are left when somebody has walked along it, each
of them one that an entry can have. In normal form it stays as it is, and
if it is relative then that starts with the ways up that are left, and only
names of entries follow. What is seen from where the path leads is what is
seen along the path and on; and whoever goes there first is led to the same
volumes by all further relative paths. -/
theorem resolution {δ σ : Type} [Driver δ σ] {base : String}
    (absolute : isAbsolute base = true) (path : String) :
    ((∀ name ∈ reached base path, IsName name)
      ∧ (Path.resolve base path).toList
        = if reached base path = [] then ['/']
          else (reached base path).flatMap fun name => '/' :: name.toList)
    ∧ Path.normalize (Path.normalize path) = Path.normalize path
    ∧ (isAbsolute path = false →
      let place := Place.start.walk path
      let names := List.replicate place.above ".." ++ place.names
      (∀ name ∈ place.names, IsName name)
      ∧ Path.normalize path
        = "/".intercalate (if names = [] then ["."] else names))
    ∧ (path ≠ "" → ∀ next, isAbsolute next = false →
      Path.resolve (Path.resolve base path) next
        = Path.resolve base (path ++ "/" ++ next))
    ∧ (path ≠ "" → ∀ next, isAbsolute next = false →
      ∀ space after : NameSpace δ σ, space.directory = base →
      (changeDirectory path).run space = .done () after →
      ((lookup next).run after).reply?
        = ((lookup (path ++ "/" ++ next)).run space).reply?) := by
  refine ⟨⟨isName_reached base path, toList_resolve absolute path⟩,
    normalize_normalize path, ?_, ?_, ?_⟩
  · intro relative
    have none : ∀ name ∈ Place.start.names, IsName name := nofun
    refine ⟨isName_walk none path, ?_⟩
    rw [normalize_of_relative relative]
    cases List.replicate (Place.start.walk path).above ".."
        ++ (Place.start.walk path).names with
    | nil => rfl
    | cons name names => rfl
  · exact fun some next relative => resolve_resolve absolute some relative
  · rintro some next relative space after rfl run
    obtain ⟨mounts, directory⟩ := routes_of_changeDirectory run
    rw [reply_lookup, reply_lookup, mounts, directory,
      resolve_resolve absolute some relative]

/-- A volume with two directories, of which one is the working
directory. -/
def neighbours : List (Command Scratch Unit) :=
  [.register "scratch" .fresh, .mount "/" 0 "scratch" true,
    .makeDirectory "/a", .makeDirectory "/a/b", .makeDirectory "/a/c",
    .changeDirectory "/a/b"]

/-- From the one directory to the other, and up and down from there. -/
theorem resolution_sample :
    ∃ space after : NameSpace Scratch RamDisk,
      space.directory = "/a/b"
      ∧ isAbsolute space.directory = true
      ∧ (changeDirectory "..//c").run space = .done () after
      ∧ reached "/a/b" "..//c" = ["a", "c"]
      ∧ (Path.resolve "/a/b" "..//c").toList = "/a/c".toList
      ∧ Path.normalize "..//c" = "../c"
      ∧ Path.resolve (Path.resolve "/a/b" "..//c") "../../../d"
        = Path.resolve "/a/b" "..//c/../../../d"
      ∧ ((lookup "../../../d").run after).reply?
        = ((lookup "..//c/../../../d").run space).reply? := by
  have ends : ((afterAll neighbours
        { (NameSpace.empty 1 : NameSpace Scratch RamDisk) with
          world := sampleWorld }).map fun space =>
      (space.directory, ((changeDirectory "..//c").run space).reply?))
        = some ("/a/b", some (.ok ())) := by
    decide +kernel
  obtain ⟨space, _, tells⟩ := Option.map_eq_some_iff.mp ends
  obtain ⟨directory, goes⟩ := Prod.mk.inj tells
  cases run : (changeDirectory "..//c").run space with
  | done _ after =>
    have absolute : isAbsolute "/a/b" = true := by decide
    obtain ⟨⟨_, text⟩, _, relative, composes, routes⟩ :=
      @resolution Scratch RamDisk _ _ absolute "..//c"
    have some : "..//c" ≠ "" := by decide
    have next : isAbsolute "../../../d" = false := by decide
    have led : reached "/a/b" "..//c" = ["a", "c"] := by decide
    refine ⟨space, after, directory, by rw [directory]; exact absolute, run,
      led, ?_, ?_, composes some _ next, ?_⟩
    · rw [text, led]
      decide
    · rw [(relative (by decide)).2]
      decide
    · exact routes some _ next space after directory run
  | refused fault after =>
    rw [run] at goes
    cases goes
  | stopped after =>
    rw [run] at goes
    cases goes

end MountSpace.Proofs.Routing
