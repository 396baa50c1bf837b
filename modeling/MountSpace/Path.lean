/-!
# `MountSpace.Path`: path text and its normal form

A path is text in which slashes separate names. It is absolute when it
starts with a slash. Empty names mean nothing, `.` means "here" and `..`
means "up". All functions work on the text alone and ask no volume.

* `Path.segments`: the names as they are written, without empty ones
  (`split_append`, `not_mem_split`).
* `Path.NormalForm`: the names that are left when every `.` is dropped
  and every `..` has taken the name before it away; `Path.normalForm`
  computes it and `NormalForm.render` writes it down.
* `Path.normalize`, `Path.resolve`: the text of the normal form, of a
  path by itself and of a path as seen from a directory.
* `Path.parent`, `Path.fileName`, `Path.depth`: the directory of a path,
  its last name, and the number of its names.

Going up from the root stays there. A relative path keeps a `..` that
has no name to take away, so only its first names can be `..`.
-/

set_option autoImplicit false

namespace MountSpace

namespace Path

/-! ### Names as they are written -/

/-- The parts between the slashes, empty ones included. -/
def split : List Char → List (List Char)
  | [] => [[]]
  | char :: rest =>
    if char = '/' then [] :: split rest
    else match split rest with
      | [] => [[char]]
      | part :: parts => (char :: part) :: parts

theorem split_ne_nil (text : List Char) : split text ≠ [] := by
  induction text with
  | nil => simp [split]
  | cons char rest ih =>
    rw [split]
    split
    · simp
    · split <;> simp

/-- A slash ends a part, and all before it stays as it is. -/
theorem split_append (before after : List Char) :
    split (before ++ '/' :: after) = split before ++ split after := by
  induction before with
  | nil => simp [split]
  | cons char rest ih =>
    rw [List.cons_append, split, split, ih]
    by_cases slash : char = '/'
    · simp [slash]
    · rw [if_neg slash, if_neg slash]
      -- The first part goes on to the left of the slash, so it is there.
      cases parts : split rest with
      | nil => exact absurd parts (split_ne_nil rest)
      | cons part more => simp

theorem not_mem_split {text part : List Char} (h : part ∈ split text) :
    '/' ∉ part := by
  induction text generalizing part with
  | nil => simp_all [split]
  | cons char rest ih =>
    rw [split] at h
    by_cases slash : char = '/'
    · rw [if_pos slash] at h
      rcases List.mem_cons.mp h with rfl | h
      · simp
      · exact ih h
    · rw [if_neg slash] at h
      cases parts : split rest with
      | nil => exact absurd parts (split_ne_nil rest)
      | cons first more =>
        rw [parts] at h ih
        rcases List.mem_cons.mp h with rfl | h
        · have := ih List.mem_cons_self
          simp [this, Ne.symm slash]
        · exact ih (List.mem_cons_of_mem _ h)

/-- The names between the slashes. -/
def segments (path : String) : List String :=
  ((split path.toList).filter fun part => !part.isEmpty).map String.ofList

/-- An absolute path starts with a slash. -/
def isAbsolute (path : String) : Bool :=
  path.toList.head? == some '/'

/-- What a part of a path stands for. -/
inductive Component where
  | root
  | current
  | parent
  | name (text : String)
  deriving DecidableEq, Repr

/-- What a name between slashes stands for. -/
def Component.ofSegment (segment : String) : Component :=
  if segment = "." then .current
  else if segment = ".." then .parent
  else .name segment

/-- The parts of a path, a leading slash among them. -/
def parse (path : String) : List Component :=
  (if isAbsolute path then [Component.root] else [])
    ++ (segments path).map Component.ofSegment

/-! ### Normal forms -/

/-- A path with nothing left to drop: the names from the root on, or
from wherever the path is seen. -/
structure NormalForm where
  absolute : Bool
  names : List String
  deriving DecidableEq, Repr

/-- Goes one part further. The names gone through so far are kept with
the last one in front. -/
def advance (absolute : Bool) (gone : List String) :
    Component → List String
  | .root | .current => gone
  | .name text => text :: gone
  | .parent =>
    match gone with
    | last :: before =>
      -- A name that is itself a way up cannot be taken away.
      if last ≠ ".." then before
      else if absolute then gone else ".." :: gone
    | [] =>
      -- There is no way up from the root.
      if absolute then [] else [".."]

/-- The normal form of a path. -/
def normalForm (path : String) : NormalForm :=
  let absolute := isAbsolute path
  ⟨absolute, ((parse path).foldl (advance absolute) []).reverse⟩

/-- The text of a normal form. The empty relative one is `.`. -/
def NormalForm.render : NormalForm → String
  | ⟨true, []⟩ => "/"
  | ⟨false, []⟩ => "."
  | ⟨true, names⟩ => "/" ++ "/".intercalate names
  | ⟨false, names⟩ => "/".intercalate names

/-- The text of the normal form of a path. -/
def normalize (path : String) : String :=
  (normalForm path).render

/-- The path as seen from the directory `base`, in normal form. -/
def resolve (base path : String) : String :=
  if isAbsolute path then normalize path
  else normalize (base ++ "/" ++ path)

/-! ### Parts of a path -/

/-- The directory that holds the last name of the normal form; the root
when there is at most one name. -/
def parent (path : String) : String :=
  let form := normalForm path
  match form.names.dropLast with
  | [] => "/"
  | names => NormalForm.render ⟨form.absolute, names⟩

/-- The last name of a path as it is written. -/
def fileName (path : String) : Option String :=
  (segments path).getLast?

/-- The number of names of a path as it is written. -/
def depth (path : String) : Nat :=
  (segments path).length

/-- The path of an entry of a directory. -/
def child (directory name : String) : String :=
  if directory = "/" then "/" ++ name else directory ++ "/" ++ name

end Path

end MountSpace
