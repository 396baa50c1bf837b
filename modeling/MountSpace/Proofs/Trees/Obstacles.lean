import Mathlib.Control.Monad.Basic
import MountSpace.Proofs.Trees.Exchanges

/-!
# `MountSpace.Proofs.Trees.Obstacles`: paths that lead nowhere

A path leads nowhere for one of two reasons. There is a file on the way,
and nothing is below a file, or something is missing. To put a tree where
something is missing helps only if all but the last name lead to a
directory.

* `lookup_eq_notDirectory_iff`, `lookup_eq_notFound_iff`: a look-up tells
  the two reasons apart.
* `put_eq_error`: what is put where nothing is comes to nothing for want of
  a directory to put it in, and for no other reason.
-/

set_option autoImplicit false

namespace MountSpace.Proofs.Trees

/-- There is a file at the path. -/
def FileAt (root : Tree) (path : List String) : Prop :=
  ∃ data, root.lookup path = .ok (.file data)

/-- There is a file on the way, before the end of the path. -/
def FileAbove (root : Tree) (path : List String) : Prop :=
  ∃ above, above <+: path ∧ above ≠ path ∧ FileAt root above

/-! ### Both can be looked up -/

section

variable (root : Tree) (path : List String)

instance : Decidable (DirectoryAt root path) :=
  decidable_of_iff ((root.lookup path).map Tree.isDirectory = .ok true) <| by
    rw [DirectoryAt]
    rcases root.lookup path with fault | (data | entries) <;>
      simp [Except.map, Tree.isDirectory]

instance : Decidable (FileAt root path) :=
  decidable_of_iff ((root.lookup path).map Tree.isDirectory = .ok false) <| by
    rw [FileAt]
    rcases root.lookup path with fault | (data | entries) <;>
      simp [Except.map, Tree.isDirectory]

instance : Decidable (Present root path) :=
  decidable_of_iff (DirectoryAt root path ∨ FileAt root path) <| by
    rw [DirectoryAt, FileAt, Present]
    rcases root.lookup path with fault | (data | entries) <;> simp

end

section

variable {root tree after : Tree} {path wanted : List String} {fault : Fault}

/-- What is before a path leads on by one name at least. -/
theorem exists_append_of_prefix (above : wanted <+: path)
    (different : wanted ≠ path) :
    ∃ name rest, path = wanted ++ name :: rest := by
  obtain ⟨rest, rfl⟩ := above
  cases rest with
  | nil => exact absurd (List.append_nil wanted).symm different
  | cons name rest => exact ⟨name, rest, rfl⟩

/-! ### Look-ups that fail -/

theorem fault_of_lookup (found : root.lookup path = .error fault) :
    fault = .notDirectory ∨ fault = .notFound := by
  fun_induction Tree.lookup root path with
  | case1 root => cases found
  | case2 data name rest =>
    cases found
    exact .inl rfl
  | case3 entries name rest child entry ih => exact ih found
  | case4 entries name rest none =>
    cases found
    exact .inr rfl

/-- A look-up comes to a file on the way, or there is none. -/
theorem lookup_eq_notDirectory_iff :
    root.lookup path = .error .notDirectory ↔ FileAbove root path := by
  constructor
  · intro found
    fun_induction Tree.lookup root path with
    | case1 root => cases found
    | case2 data name rest =>
      exact ⟨[], List.nil_prefix, by simp, data, rfl⟩
    | case3 entries name rest child entry ih =>
      obtain ⟨above, prefixed, different, data, file⟩ := ih found
      refine ⟨name :: above, List.cons_prefix_cons.mpr ⟨rfl, prefixed⟩,
        by simpa using different, data, ?_⟩
      rw [lookup_directory_of_get? entry]
      exact file
    | case4 entries name rest none => cases found
  · rintro ⟨above, prefixed, different, data, file⟩
    obtain ⟨name, rest, rfl⟩ := exists_append_of_prefix prefixed different
    rw [lookup_append, file]
    rfl

instance (root : Tree) (path : List String) :
    Decidable (FileAbove root path) :=
  decidable_of_iff _ lookup_eq_notDirectory_iff

theorem lookup_eq_notFound_iff :
    root.lookup path = .error .notFound
      ↔ ¬ FileAbove root path ∧ ¬ Present root path := by
  rw [← lookup_eq_notDirectory_iff, Present]
  cases found : root.lookup path with
  | ok tree => simp
  | error fault => rcases fault_of_lookup found with rfl | rfl <;> simp

/-! ### On the way to something -/

/-- The way to something leads through directories. -/
theorem directoryAt_of_prefix (found : root.lookup path = .ok tree)
    (above : wanted <+: path) (different : wanted ≠ path) :
    DirectoryAt root wanted := by
  obtain ⟨name, rest, rfl⟩ := exists_append_of_prefix above different
  rw [lookup_append] at found
  cases way : root.lookup wanted with
  | error fault =>
    rw [way] at found
    nomatch found
  | ok tree =>
    cases tree with
    | directory entries => exact ⟨entries, way⟩
    | file data =>
      rw [way] at found
      nomatch found

/-- A tree that stays as it is, seen as one that is put in its own place. -/
theorem exchanged_self (found : root.lookup path = .ok tree)
    (entry : path ≠ []) : Exchanged path (some tree) (some tree) root root := by
  have same : Edited path (fun more => root.lookup (path ++ more)) root root := by
    refine ⟨fun _ => rfl, fun _ _ => rfl, ?_⟩
    intro wanted above different
    have way := directoryAt_of_prefix found above different
    exact ⟨way, way⟩
  refine same.exchanged entry found ?_
  rw [List.append_nil]
  exact found

/-! ### A place for something new -/

/-- Nothing can be put where the last name has no directory to be in. -/
theorem put_eq_error (missing : root.lookup path = .error .notFound)
    (put : root.put path tree = .error fault) :
    fault = .notFound ∧ ¬ DirectoryAt root path.dropLast := by
  -- An edit goes down by the same entries as a look-up does.
  induction path generalizing root fault with
  | nil => cases missing
  | cons name rest ih =>
    cases root with
    | file data => cases missing
    | directory entries =>
      by_cases last : rest = []
      · -- The last name can always be entered.
        subst last
        cases put
      · rw [List.dropLast_cons_of_ne_nil last, DirectoryAt]
        rw [lookup_directory_cons] at missing ⊢
        cases entry : Keyed.get? entries name with
        | none =>
          obtain ⟨next, more, rfl⟩ := List.exists_cons_of_ne_nil last
          rw [Tree.put, Tree.editEntries, entry] at put
          cases put
          refine ⟨rfl, ?_⟩
          rintro ⟨_, directory⟩
          cases directory
        | some child =>
          rw [entry] at missing
          rw [Tree.put, editEntries_cons last entry] at put
          cases inner : child.put rest tree with
          | error cause =>
            obtain ⟨rfl, none⟩ := ih missing inner
            rw [Tree.put] at inner
            rw [inner] at put
            cases put
            exact ⟨rfl, none⟩
          | ok edited =>
            rw [Tree.put] at inner
            rw [inner] at put
            cases put

/-- What there is a directory for can be put there. -/
theorem exists_put_iff (missing : root.lookup path = .error .notFound) :
    (∃ after, root.put path tree = .ok after)
      ↔ DirectoryAt root path.dropLast := by
  constructor
  · rintro ⟨after, put⟩
    have exchanged : Exchanged path none (some tree) root after :=
      exchanged_put missing put
    exact exchanged.parent.1
  · intro parent
    cases put : root.put path tree with
    | ok after => exact ⟨after, rfl⟩
    | error fault => exact absurd parent (put_eq_error missing put).2

end

end MountSpace.Proofs.Trees
