import MountSpace.Proofs.Paths.Absolute

/-!
# `MountSpace.Proofs.Paths.Walks`: resolving a path as a walk

Whoever walks along a path keeps the names that lead down from the start.
An empty part and `.` go nowhere, `..` takes the last name away, and any
other part is one name more (`Place.step`). Where there is no name left to
take away the walk is above its start. An absolute path starts at the root,
which nothing is above, so all that counts then are the names.

* `normalForm_eq_walk`: the normal form of a path is the place that it
  leads to.
* `resolve_eq_ofNames`: a path as seen from a directory is the place that
  it leads to from there.
* `resolve_resolve`: two walks, one after the other, are one walk.
-/

set_option autoImplicit false

namespace MountSpace.Proofs.Paths

open MountSpace.Path
open MountSpace.Tree (IsName)

/-- Where a walk has led: to so many levels above its start, and from there
down these names. -/
structure Place where
  above : Nat
  names : List String
  deriving DecidableEq, Repr

namespace Place

/-- The start of a walk. -/
def start : Place := ⟨0, []⟩

/-- One part of a path further. -/
def step (place : Place) (part : String) : Place :=
  if part = "" ∨ part = "." then place
  else if part ≠ ".." then { place with names := place.names ++ [part] }
  else if place.names = [] then { place with above := place.above + 1 }
  else { place with names := place.names.dropLast }

/-- Along all parts of a path, those between its slashes. -/
def walk (place : Place) (path : String) : Place :=
  ((split path.toList).map String.ofList).foldl step place

end Place

open Place

/-- The names from the root to where a path leads that is seen from a
directory. -/
def reached (base path : String) : List String :=
  ((if isAbsolute path then start else start.walk base).walk path).names

/-! ### Single steps -/

theorem step_name (place : Place) {name : String} (isName : IsName name) :
    place.step name = { place with names := place.names ++ [name] } := by
  have other : ¬ (name = "" ∨ name = ".") := by
    rintro (empty | current)
    · exact isName.1 empty
    · exact isName.2.1 current
  rw [step, if_neg other, if_pos isName.2.2.1]

theorem step_up_of_nil (above : Nat) :
    step ⟨above, []⟩ ".." = ⟨above + 1, []⟩ := rfl

theorem step_up_of_ne_nil {place : Place} (some : place.names ≠ []) :
    place.step ".." = { place with names := place.names.dropLast } := by
  have other : ¬ (".." = "" ∨ ".." = ".") := by decide
  rw [step, if_neg other, if_neg (fun none => none rfl), if_neg some]

/-- What is walked down does not depend on what is above. -/
theorem names_step {place other : Place} (same : place.names = other.names)
    (part : String) : (place.step part).names = (other.step part).names := by
  simp only [step, same]
  split
  · exact same
  · split
    · rfl
    · split
      · rfl
      · rfl

/-- A part between slashes leaves names of entries only. -/
theorem isName_step {place : Place}
    (fit : ∀ name ∈ place.names, IsName name) {part : String}
    (clear : '/' ∉ part.toList) : ∀ name ∈ (place.step part).names,
      IsName name := by
  intro name member
  rw [step] at member
  split at member
  · exact fit name member
  · next other =>
    rw [not_or] at other
    split at member
    · next up =>
      rcases List.mem_append.mp member with old | new
      · exact fit name old
      · rw [List.mem_singleton.mp new]
        exact ⟨other.1, other.2, up, clear⟩
    · split at member
      · exact fit name member
      · exact fit name ((List.dropLast_subset place.names) member)

/-! ### Walks -/

/-- Behind a slash the walk goes on from where it has led before. -/
theorem walk_append_slash (place : Place) (path next : String) :
    place.walk (path ++ "/" ++ next) = (place.walk path).walk next := by
  have parts : (path ++ "/" ++ next).toList
      = path.toList ++ '/' :: next.toList := by
    simp [String.toList_append]
  simp only [walk, parts, split_append, List.map_append, List.foldl_append]

theorem names_walk {place other : Place} (same : place.names = other.names)
    (path : String) : (place.walk path).names = (other.walk path).names := by
  simp only [walk]
  generalize (split path.toList).map String.ofList = parts
  induction parts generalizing place other with
  | nil => exact same
  | cons part rest ih => exact ih (names_step same part)

theorem isName_walk {place : Place}
    (fit : ∀ name ∈ place.names, IsName name) (path : String) :
    ∀ name ∈ (place.walk path).names, IsName name := by
  have clear : ∀ part ∈ (split path.toList).map String.ofList,
      '/' ∉ part.toList := by
    intro part member
    obtain ⟨chars, found, rfl⟩ := List.mem_map.mp member
    rw [String.toList_ofList]
    exact not_mem_split found
  rw [walk]
  generalize (split path.toList).map String.ofList = parts at clear
  induction parts generalizing place with
  | nil => exact fit
  | cons part rest ih =>
    obtain ⟨first, others⟩ := List.forall_mem_cons.mp clear
    exact ih (isName_step fit first) others

/-- Empty parts can be left out. -/
theorem walk_eq_foldl (place : Place) (path : String) :
    place.walk path = (segments path).foldl step place := by
  rw [walk, segments]
  generalize split path.toList = parts
  -- An empty part is a step that leads nowhere else.
  induction parts generalizing place with
  | nil => rfl
  | cons part rest ih =>
    cases part with
    | nil => exact ih place
    | cons char chars => exact ih (place.step (String.ofList (char :: chars)))

theorem foldl_step_names (place : Place) {names : List String}
    (fit : ∀ name ∈ names, IsName name) :
    names.foldl step place = { place with names := place.names ++ names } := by
  induction names generalizing place with
  | nil => simp
  | cons name rest ih =>
    obtain ⟨first, others⟩ := List.forall_mem_cons.mp fit
    rw [List.foldl_cons, step_name place first, ih _ others]
    simp

/-- The text of names leads down those names. -/
theorem walk_ofNames {names : List String}
    (fit : ∀ name ∈ names, IsName name) :
    start.walk (ofNames names) = ⟨0, names⟩ := by
  rw [walk_eq_foldl, segments_ofNames fit, foldl_step_names start fit]
  rfl

/-! ### Normal forms -/

/-- What is kept of a place, with the last name in front. From the root on
it is of no interest how often the way up was barred. -/
def Place.gone (absolute : Bool) (place : Place) : List String :=
  place.names.reverse
    ++ List.replicate (if absolute then 0 else place.above) ".."

/-- The way to the normal form goes through the same places. -/
theorem advance_gone (absolute : Bool) {place : Place}
    (fit : ∀ name ∈ place.names, IsName name) {name : String}
    (some : name ≠ "") :
    advance absolute (place.gone absolute) (Component.ofSegment name)
      = (place.step name).gone absolute := by
  by_cases current : name = "."
  · subst current
    rfl
  by_cases up : name = ".."
  -- A way up takes the last name back. At the root it is dropped, and in a
  -- relative path it is kept when there is no name left.
  · subst up
    obtain ⟨above, names⟩ := place
    rcases List.eq_nil_or_concat' names with rfl | ⟨before, last, rfl⟩
    · rw [step_up_of_nil]
      cases absolute with
      | true => rfl
      | false => cases above <;> rfl
    · have other : last ≠ ".." := (fit last (by simp)).2.2.1
      have some : before ++ [last] ≠ [] := by simp
      rw [step_up_of_ne_nil some]
      simp [Place.gone, Component.ofSegment, advance, other]
  · have kept : Component.ofSegment name = .name name := by
      rw [Component.ofSegment, if_neg current, if_neg up]
    have other : ¬ (name = "" ∨ name = ".") := not_or.mpr ⟨some, current⟩
    rw [kept, step, if_neg other, if_pos up]
    simp [Place.gone, advance]

@[simp]
theorem gone_start (absolute : Bool) : start.gone absolute = [] := by
  simp [Place.gone, start]

theorem foldl_advance_gone (absolute : Bool) {place : Place}
    (fit : ∀ name ∈ place.names, IsName name) {names : List String}
    (segments : ∀ name ∈ names, IsSegment name) :
    (names.map Component.ofSegment).foldl (advance absolute)
        (place.gone absolute)
      = (names.foldl step place).gone absolute := by
  induction names generalizing place with
  | nil => rfl
  | cons name rest ih =>
    obtain ⟨first, others⟩ := List.forall_mem_cons.mp segments
    rw [List.map_cons, List.foldl_cons, List.foldl_cons,
      advance_gone absolute fit first.1]
    exact ih (isName_step fit first.2) others

/-- The normal form of a path is where it leads. -/
theorem normalForm_eq_walk (path : String) :
    normalForm path = ⟨isAbsolute path,
      List.replicate
        (if isAbsolute path then 0 else (start.walk path).above) ".."
        ++ (start.walk path).names⟩ := by
  have fit : ∀ name ∈ segments path, IsSegment name :=
    fun _ member => isSegment_of_mem_segments member
  have none : ∀ name ∈ start.names, IsName name := nofun
  have walked := foldl_advance_gone (isAbsolute path) none fit
  rw [← walk_eq_foldl, gone_start] at walked
  have gone : (parse path).foldl (advance (isAbsolute path)) []
      = (start.walk path).gone (isAbsolute path) := by
    rw [parse, List.foldl_append, ← walked]
    split <;> rfl
  simp only [normalForm, gone, Place.gone, List.reverse_append,
    List.reverse_replicate, List.reverse_reverse]

theorem normalize_of_isAbsolute_eq {path : String}
    (absolute : isAbsolute path = true) :
    Path.normalize path = ofNames (start.walk path).names := by
  rw [Path.normalize, normalForm_eq_walk, absolute]
  rfl

/-- A relative path keeps its ways up, in front of all names. -/
theorem normalize_of_relative {path : String}
    (relative : isAbsolute path = false) :
    Path.normalize path
      = NormalForm.render ⟨false,
        List.replicate (start.walk path).above ".."
          ++ (start.walk path).names⟩ := by
  rw [Path.normalize, normalForm_eq_walk, relative]
  rfl

/-! ### Paths seen from a directory -/

section

variable {base : String}

theorem isName_reached (base path : String) :
    ∀ name ∈ reached base path, IsName name := by
  have none : ∀ name ∈ start.names, IsName name := nofun
  rw [reached]
  split
  · exact isName_walk none path
  · exact isName_walk (isName_walk none base) path

/-- A path as seen from an absolute directory is where it leads from
there. -/
theorem resolve_eq_ofNames (absolute : isAbsolute base = true)
    (path : String) : resolve base path = ofNames (reached base path) := by
  rw [resolve, reached]
  by_cases own : isAbsolute path = true
  · rw [if_pos own, if_pos own, normalize_of_isAbsolute_eq own]
  · have joined : isAbsolute (base ++ "/" ++ path) = true :=
      isAbsolute_append (isAbsolute_append absolute "/") path
    rw [if_neg own, if_neg own, normalize_of_isAbsolute_eq joined,
      walk_append_slash]

/-- What a path leads to from where another one has led is what both,
written one behind the other, lead to. -/
theorem resolve_resolve (absolute : isAbsolute base = true) {path : String}
    (some : path ≠ "") {next : String} (relative : isAbsolute next = false) :
    resolve (resolve base path) next = resolve base (path ++ "/" ++ next) := by
  have joined : path ++ "/" ≠ "" := by simp
  have whole : isAbsolute (path ++ "/" ++ next) = isAbsolute path := by
    rw [isAbsolute_append_of_ne joined, isAbsolute_append_of_ne some]
  -- The directory that has been resolved leads to where the path has led.
  have led : (start.walk (resolve base path)).names = reached base path := by
    rw [resolve_eq_ofNames absolute, walk_ofNames (isName_reached base path)]
  have same : reached (resolve base path) next
      = reached base (path ++ "/" ++ next) := by
    simp only [reached, relative, whole, walk_append_slash]
    exact names_walk led next
  calc resolve (resolve base path) next
    _ = ofNames (reached (resolve base path) next) :=
      resolve_eq_ofNames (isNormal_resolve absolute path).1 next
    _ = ofNames (reached base (path ++ "/" ++ next)) := by rw [same]
    _ = resolve base (path ++ "/" ++ next) :=
      (resolve_eq_ofNames absolute _).symm

end

end MountSpace.Proofs.Paths
