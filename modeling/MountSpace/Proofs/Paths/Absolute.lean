import Mathlib.Data.List.Basic
import MountSpace.MountTable
import MountSpace.Proofs.Paths.NormalForm

/-!
# `MountSpace.Proofs.Paths.Absolute`: absolute paths in normal form

A name space works with absolute paths in normal form only. Such a path
is the same as its list of names, each of which can be the name of an
entry (`isNormal_iff`, `IsNormal.ext`), and resolving any path against
one gives one (`isNormal_resolve`).

`strip_eq_some_iff` compares what a mount does with text to what it means
for names. The text of a path can start with that of another one although
no name is the same, as `/flash1` does with `/flash`. It is the slash
behind it, or the end of the text, that makes it a whole name.
-/

set_option autoImplicit false

namespace MountSpace.Proofs.Paths

open MountSpace.Path
open MountSpace.Tree (IsName)

/-! ### Paths as lists of names -/

/-- The text of the names from the root on. -/
def ofNames (names : List String) : String :=
  NormalForm.render ⟨true, names⟩

/-- An absolute path with nothing left to drop. -/
def IsNormal (path : String) : Prop :=
  isAbsolute path = true ∧ Path.normalize path = path

instance (path : String) : Decidable (IsNormal path) :=
  inferInstanceAs (Decidable (_ ∧ _))

/-- Names of entries, one below the other, leave nothing to drop. -/
theorem reduced_of_isName {names : List String}
    (fit : ∀ name ∈ names, IsName name) : Reduced ⟨true, names⟩ :=
  ⟨0, names, rfl, fit, fun _ => rfl⟩

/-- From the root on all names are names of entries. -/
theorem isName_of_reduced {names : List String}
    (reduced : Reduced ⟨true, names⟩) : ∀ name ∈ names, IsName name := by
  obtain ⟨ups, rest, split, fit, root⟩ := reduced
  have split : names = List.replicate ups ".." ++ rest := split
  rw [split, root rfl]
  exact fit

theorem segments_ofNames {names : List String}
    (fit : ∀ name ∈ names, IsName name) :
    segments (ofNames names) = names :=
  segments_render (reduced_of_isName fit) (Or.inl rfl)

theorem isNormal_ofNames {names : List String}
    (fit : ∀ name ∈ names, IsName name) : IsNormal (ofNames names) := by
  have reduced := reduced_of_isName fit
  constructor
  · exact isAbsolute_render reduced
  · rw [Path.normalize, ofNames, normalForm_render reduced]

/-- The normal form of an absolute path is a list of names. -/
theorem normalize_of_isAbsolute {path : String}
    (absolute : isAbsolute path = true) :
    ∃ names, (∀ name ∈ names, IsName name)
      ∧ Path.normalize path = ofNames names := by
  have form : normalForm path = ⟨true, (normalForm path).names⟩ := by
    rw [← absolute]
    rfl
  refine ⟨(normalForm path).names, ?_, ?_⟩
  · apply isName_of_reduced
    rw [← form]
    exact reduced_normalForm path
  · rw [Path.normalize, ofNames, ← form]

theorem isNormal_iff {path : String} :
    IsNormal path
      ↔ ∃ names, (∀ name ∈ names, IsName name) ∧ path = ofNames names := by
  constructor
  · intro ⟨absolute, same⟩
    obtain ⟨names, fit, text⟩ := normalize_of_isAbsolute absolute
    exact ⟨names, fit, same ▸ text⟩
  · rintro ⟨names, fit, rfl⟩
    exact isNormal_ofNames fit

theorem IsNormal.isName {path : String} (normal : IsNormal path) :
    ∀ name ∈ segments path, IsName name := by
  obtain ⟨names, fit, rfl⟩ := isNormal_iff.mp normal
  rw [segments_ofNames fit]
  exact fit

theorem IsNormal.eq_ofNames {path : String} (normal : IsNormal path) :
    path = ofNames (segments path) := by
  obtain ⟨names, fit, rfl⟩ := isNormal_iff.mp normal
  rw [segments_ofNames fit]

/-- Normal paths with the same names are the same. -/
theorem IsNormal.ext {path other : String} (normal : IsNormal path)
    (normalOther : IsNormal other)
    (same : segments path = segments other) : path = other := by
  rw [normal.eq_ofNames, normalOther.eq_ofNames, same]

theorem isNormal_normalize {path : String}
    (absolute : isAbsolute path = true) : IsNormal (Path.normalize path) := by
  obtain ⟨names, fit, text⟩ := normalize_of_isAbsolute absolute
  rw [text]
  exact isNormal_ofNames fit

/-- A path starts with the first character of what is put in front. -/
theorem isAbsolute_append_of_ne {path : String} (some : path ≠ "")
    (more : String) : isAbsolute (path ++ more) = isAbsolute path := by
  rw [isAbsolute, isAbsolute, String.toList_append]
  cases chars : path.toList with
  | nil => exact absurd (String.toList_eq_nil_iff.mp chars) some
  | cons char rest => rfl

theorem isAbsolute_append {base : String}
    (absolute : isAbsolute base = true) (more : String) :
    isAbsolute (base ++ more) = true := by
  have some : base ≠ "" := by
    rintro rfl
    exact absurd absolute (by decide)
  rw [isAbsolute_append_of_ne some, absolute]

/-- What an absolute directory makes of a path is in normal form. -/
theorem isNormal_resolve {base : String}
    (absolute : isAbsolute base = true) (path : String) :
    IsNormal (resolve base path) := by
  rw [resolve]
  split
  · next own => exact isNormal_normalize own
  · exact isNormal_normalize
      (isAbsolute_append (isAbsolute_append absolute "/") path)

/-- From every directory a path in normal form leads to itself. -/
theorem IsNormal.resolve {path : String} (normal : IsNormal path)
    (base : String) : Path.resolve base path = path := by
  rw [Path.resolve, if_pos normal.1, normal.2]

/-! ### Beginnings of paths -/

/-- What can follow a whole name: nothing, or what starts with a
slash. -/
def Follows (text : List Char) : Prop :=
  ∀ char ∈ text.head?, char = '/'

theorem follows_written (names : List String) :
    Follows (written names) := by
  cases names with
  | nil => nofun
  | cons name names =>
    intro char first
    exact (Option.some.inj first).symm

theorem follows_written_append (names : List String) {more : List Char}
    (follows : Follows more) : Follows (written names ++ more) := by
  cases names with
  | nil => exact follows
  | cons name names =>
    intro char first
    exact (Option.some.inj first).symm

/-- A whole name ends at the first slash. -/
theorem append_inj_of_follows {name other rest more : List Char}
    (clear : '/' ∉ name) (clearOther : '/' ∉ other)
    (follows : Follows rest) (followsOther : Follows more)
    (same : name ++ rest = other ++ more) :
    name = other ∧ rest = more := by
  induction name generalizing other with
  | nil =>
    cases other with
    | nil => exact ⟨rfl, same⟩
    | cons char chars =>
      -- The other name would have to start with a slash.
      have slash := follows char (by rw [List.nil_append] at same
                                     rw [same]
                                     rfl)
      exact absurd (slash ▸ List.mem_cons_self) clearOther
  | cons char chars ih =>
    cases other with
    -- The same with the two names exchanged.
    | nil =>
      have slash := followsOther char (by rw [List.nil_append] at same
                                          rw [← same]
                                          rfl)
      exact absurd (slash ▸ List.mem_cons_self) clear
    | cons _ others =>
      obtain ⟨rfl, sameRest⟩ := List.cons.inj same
      rw [List.mem_cons, not_or] at clear clearOther
      obtain ⟨rfl, rest⟩ := ih clear.2 clearOther.2 sameRest
      exact ⟨rfl, rest⟩

/-- The text of a path goes on after that of another one, with whole
names, exactly when its names do. -/
theorem written_eq_append_iff {names above : List String}
    (fit : ∀ name ∈ names, IsSegment name)
    (fitAbove : ∀ name ∈ above, IsSegment name) {more : List Char}
    (follows : Follows more) :
    written names = written above ++ more
      ↔ ∃ left, names = above ++ left ∧ more = written left := by
  constructor
  · intro same
    induction above generalizing names with
    | nil => exact ⟨names, rfl, same.symm⟩
    | cons name above ih =>
      obtain ⟨first, others⟩ := List.forall_mem_cons.mp fitAbove
      cases names with
      | nil => nomatch same
      | cons found names =>
        obtain ⟨firstFound, othersFound⟩ := List.forall_mem_cons.mp fit
        -- Behind the first slash there is a whole name on each side.
        rw [written_cons, written_cons, List.cons_append,
          List.cons_append, List.cons_append, List.append_assoc] at same
        obtain ⟨sameName, same⟩ := append_inj_of_follows firstFound.2
          first.2 (follows_written names)
          (follows_written_append above follows) (List.cons.inj same).2
        obtain ⟨left, rfl, rfl⟩ := ih othersFound others same
        exact ⟨left, by rw [String.toList_inj.mp sameName]; rfl, rfl⟩
  · rintro ⟨left, rfl, rfl⟩
    exact written_append above left

/-! ### Paths below a mount -/

section

variable {ρ : Type} {mount : Mount ρ} {path rest : String}

theorem toList_ofNames {names : List String} (some : names ≠ []) :
    (ofNames names).toList = written names :=
  toList_render_absolute some

/-- What is left of a path, written as a path: the root stands for
nothing. -/
theorem ofNames_eq_ite (names : List String) :
    ofNames names
      = if written names = [] then "/"
        else String.ofList (written names) := by
  cases names with
  | nil => rfl
  | cons name names =>
    rw [if_neg (by rw [written_cons]; exact List.cons_ne_nil _ _),
      ← toList_ofNames (List.cons_ne_nil _ _), String.ofList_toList]

/-- The root lies below no path but itself. -/
theorem root_ne_written_append {names : List String} (some : names ≠ [])
    (fit : ∀ name ∈ names, IsSegment name) (more : List Char) :
    ['/'] ≠ written names ++ more := by
  cases names with
  | nil => exact absurd rfl some
  | cons name names =>
    -- Nothing is left of the root behind its slash, so no name would be.
    intro same
    rw [written_cons, List.cons_append, List.cons_append] at same
    have empty := (List.cons.inj same).2.symm
    rw [List.append_assoc, List.append_eq_nil_iff] at empty
    exact (fit name List.mem_cons_self).1
      (String.toList_eq_nil_iff.mp empty.1)

/-- The text of a path below a mount, unless that is the root. -/
theorem strip_eq_some_iff_append (other : mount.path ≠ "/") :
    mount.strip path = some rest
      ↔ ∃ more, path.toList = mount.path.toList ++ more ∧ Follows more
        ∧ rest = if more = [] then "/" else String.ofList more := by
  rw [Mount.strip, if_neg other]
  constructor
  · intro found
    split at found
    · next same =>
      rw [List.isPrefixOf?_eq_some_iff_append_eq] at same
      exact ⟨[], same.symm, nofun, (Option.some.inj found).symm⟩
    · next char chars same =>
      rw [List.isPrefixOf?_eq_some_iff_append_eq] at same
      -- What goes on without a slash is a longer name.
      split at found
      · next slash =>
        refine ⟨char :: chars, same.symm, ?_, ?_⟩
        · intro first head
          rw [← Option.some.inj head]
          exact slash
        · exact (Option.some.inj found).symm
      · nomatch found
    · nomatch found
  · rintro ⟨more, same, follows, rfl⟩
    rw [List.isPrefixOf?_eq_some_iff_append_eq.mpr same.symm]
    cases more with
    | nil => rfl
    | cons char chars => simp [follows char rfl]

/-- A path lies below a mount when its names start with those of the
mount, and what is left of it are the others. -/
theorem strip_eq_some_iff (above : IsNormal mount.path)
    (normal : IsNormal path) :
    mount.strip path = some rest
      ↔ ∃ left, segments path = segments mount.path ++ left
        ∧ rest = ofNames left := by
  -- A mount at the root takes every path as it is.
  by_cases root : mount.path = "/"
  · have none : segments mount.path = [] := by rw [root]; decide
    have whole := normal.eq_ofNames
    rw [Mount.strip, if_pos root, none]
    constructor
    · intro same
      rw [← Option.some.inj same]
      exact ⟨segments path, rfl, whole⟩
    · rintro ⟨left, rfl, rfl⟩
      exact congrArg some whole
  · have named : segments mount.path ≠ [] := by
      intro none
      apply root
      rw [above.eq_ofNames, none]
      rfl
    have fitAbove (name : String) (member : name ∈ segments mount.path) :=
      isSegment_of_isName (above.isName name member)
    have fit (name : String) (member : name ∈ segments path) :=
      isSegment_of_isName (normal.isName name member)
    -- The text of both paths is that of their names.
    have text : mount.path.toList = written (segments mount.path) := by
      rw [← toList_ofNames named, ← above.eq_ofNames]
    rw [strip_eq_some_iff_append root, text]
    by_cases none : segments path = []
    · -- The root of all names lies below no other mount.
      have slash : path.toList = ['/'] := by
        rw [normal.eq_ofNames, none]
        rfl
      rw [slash, none]
      constructor
      · rintro ⟨more, same, _⟩
        exact absurd same (root_ne_written_append named fitAbove more)
      · rintro ⟨left, same, _⟩
        exact absurd (List.append_eq_nil_iff.mp same.symm).1 named
    · have textPath : path.toList = written (segments path) := by
        rw [← toList_ofNames none, ← normal.eq_ofNames]
      rw [textPath]
      constructor
      · rintro ⟨more, same, follows, rfl⟩
        obtain ⟨left, split, rfl⟩ :=
          (written_eq_append_iff fit fitAbove follows).mp same
        exact ⟨left, split, (ofNames_eq_ite left).symm⟩
      · rintro ⟨left, split, rfl⟩
        have follows := follows_written left
        exact ⟨written left,
          (written_eq_append_iff fit fitAbove follows).mpr
            ⟨left, split, rfl⟩, follows, ofNames_eq_ite left⟩

end

end MountSpace.Proofs.Paths
