import MountSpace.Path
import MountSpace.Tree

/-!
# `MountSpace.Proofs.Paths.NormalForm`: what is left of a path

`Path.normalForm` goes through the names of a path once. The theorems
here say what it leaves, and that its text says no more and no less:

* `reduced_normalForm`: ways up are left only at the front of a relative
  path, and every other name can be the name of an entry.
* `segments_render`: the text of a normal form has the names of the form
  as its names.
* `normalForm_render`: the normal form of that text is the form itself,
  so `Path.normalize` changes nothing the second time
  (`normalize_normalize`).

The bridge between names and text is `written`, which puts a slash in
front of each name. It is the text of every absolute normal form but the
root, and, behind one slash more, that of a relative one.
-/

set_option autoImplicit false

namespace MountSpace.Proofs.Paths

open MountSpace.Path
open MountSpace.Tree (IsName)

/-! ### Names behind slashes -/

/-- The names, each behind its slash. -/
def written (names : List String) : List Char :=
  names.flatMap fun name => '/' :: name.toList

@[simp]
theorem written_nil : written [] = [] := rfl

theorem written_cons (name : String) (names : List String) :
    written (name :: names) = '/' :: name.toList ++ written names := rfl

theorem written_append (names more : List String) :
    written (names ++ more) = written names ++ written more :=
  List.flatMap_append

theorem toList_slash_intercalate {names : List String} (some : names ≠ []) :
    ("/" ++ "/".intercalate names).toList = written names := by
  induction names with
  | nil => exact absurd rfl some
  | cons name names ih =>
    cases names with
    | nil => simp [written]
    | cons other others =>
      have rest := ih (List.cons_ne_nil _ _)
      rw [String.toList_append] at rest
      rw [String.intercalate_cons_cons, written_cons, ← rest]
      simp

/-- A name between slashes: not empty, and without a slash. -/
def IsSegment (name : String) : Prop :=
  name ≠ "" ∧ '/' ∉ name.toList

theorem isSegment_of_mem_segments {path name : String}
    (member : name ∈ segments path) : IsSegment name := by
  rw [segments, List.mem_map] at member
  obtain ⟨part, found, rfl⟩ := member
  rw [List.mem_filter] at found
  obtain ⟨found, some⟩ := found
  constructor
  · intro empty
    have empty := congrArg String.toList empty
    simp_all
  · rw [String.toList_ofList]
    exact not_mem_split found

theorem isSegment_of_isName {name : String} (fits : IsName name) :
    IsSegment name :=
  ⟨fits.1, fits.2.2.2⟩

/-- What starts with a name does not start with a slash. -/
theorem isAbsolute_of_toList_eq {text name : String} (fits : IsSegment name)
    {rest : List Char} (starts : text.toList = name.toList ++ rest) :
    isAbsolute text = false := by
  rw [isAbsolute, starts]
  cases chars : name.toList with
  | nil => exact absurd (String.toList_eq_nil_iff.mp chars) fits.1
  | cons char more =>
    have other : char ≠ '/' := by
      rintro rfl
      exact fits.2 (chars ▸ List.mem_cons_self)
    simpa using other

/-- A slash separates the names before it from those after it. -/
theorem segments_append_slash (before after : List Char) :
    segments (String.ofList (before ++ '/' :: after))
      = segments (String.ofList before)
        ++ segments (String.ofList after) := by
  simp only [segments, String.toList_ofList, split_append,
    List.filter_append, List.map_append]

/-- A leading slash adds no name. -/
theorem segments_slash (after : List Char) :
    segments (String.ofList ('/' :: after))
      = segments (String.ofList after) := by
  have empty : segments (String.ofList []) = [] := by decide
  have apart := segments_append_slash [] after
  rw [empty, List.nil_append, List.nil_append] at apart
  exact apart

theorem split_of_not_mem {part : List Char} (clear : '/' ∉ part) :
    split part = [part] := by
  induction part with
  | nil => rfl
  | cons char rest ih =>
    rw [List.mem_cons, not_or] at clear
    rw [split, if_neg (Ne.symm clear.1), ih clear.2]

theorem segments_of_isSegment {name : String} (fits : IsSegment name) :
    segments name = [name] := by
  have some : name.toList ≠ [] := by
    intro empty
    exact fits.1 (String.toList_eq_nil_iff.mp empty)
  simp [segments, split_of_not_mem fits.2, some]

/-- Names behind slashes are read back. -/
theorem segments_written {names : List String}
    (fit : ∀ name ∈ names, IsSegment name) :
    segments (String.ofList (written names)) = names := by
  induction names with
  | nil => decide
  | cons name names ih =>
    obtain ⟨first, others⟩ := List.forall_mem_cons.mp fit
    have self : segments (String.ofList name.toList) = [name] := by
      rw [String.ofList_toList]
      exact segments_of_isSegment first
    rw [written_cons, List.cons_append, segments_slash]
    cases names with
    | nil =>
      rw [written_nil, List.append_nil]
      exact self
    | cons other more =>
      -- The slash of the next name ends this one.
      have rest := ih others
      rw [written_cons, List.cons_append, segments_slash] at rest
      rw [written_cons, List.cons_append, segments_append_slash, self,
        rest, List.singleton_append]

/-! ### Going through a path -/

/-- Nothing is left to drop: ways up stand only at the front, and only in
a relative path, and all names behind them can be names of entries. -/
def Reduced (form : NormalForm) : Prop :=
  ∃ ups names, form.names = List.replicate ups ".." ++ names
    ∧ (∀ name ∈ names, IsName name) ∧ (form.absolute = true → ups = 0)

/-- A name between slashes is dropped, goes up, or can be the name of an
entry. -/
def Component.Fits : Component → Prop
  | .root | .current | .parent => True
  | .name text => IsName text

theorem fits_ofSegment {name : String} (fits : IsSegment name) :
    Component.Fits (Component.ofSegment name) := by
  rw [Component.ofSegment]
  by_cases current : name = "."
  · rw [if_pos current]
    trivial
  by_cases up : name = ".."
  · rw [if_neg current, if_pos up]
    trivial
  · rw [if_neg current, if_neg up]
    exact ⟨fits.1, current, up, fits.2⟩

theorem fits_of_mem_parse {path : String} {component : Component}
    (member : component ∈ parse path) : Component.Fits component := by
  rw [parse, List.mem_append] at member
  cases member with
  | inl member =>
    split at member
    · rw [List.mem_singleton.mp member]
      trivial
    · exact absurd member List.not_mem_nil
  | inr member =>
    obtain ⟨name, found, rfl⟩ := List.mem_map.mp member
    exact fits_ofSegment (isSegment_of_mem_segments found)

/-- One part more leaves nothing to drop either. -/
theorem reduced_advance {absolute : Bool} {gone : List String}
    {component : Component} (fits : Component.Fits component)
    (reduced : Reduced ⟨absolute, gone.reverse⟩) :
    Reduced ⟨absolute, (advance absolute gone component).reverse⟩ := by
  cases component with
  | root => exact reduced
  | current => exact reduced
  | name text =>
    obtain ⟨ups, names, split, fit, root⟩ := reduced
    have split : gone.reverse = List.replicate ups ".." ++ names := split
    refine ⟨ups, names ++ [text], ?_, ?_, root⟩
    · show (text :: gone).reverse = _
      rw [List.reverse_cons, split, List.append_assoc]
    · intro name member
      rw [List.mem_append, List.mem_singleton] at member
      cases member with
      | inl member => exact fit name member
      | inr last => exact last ▸ fits
  | parent =>
    obtain ⟨ups, names, split, fit, root⟩ := reduced
    have turned := congrArg List.reverse split
    rw [List.reverse_reverse, List.reverse_append,
      List.reverse_replicate] at turned
    cases back : names.reverse with
    | cons last before =>
      -- The last name can be taken away.
      have member (name : String) (later : name ∈ last :: before) :
          name ∈ names := by
        rw [← back] at later
        exact List.mem_reverse.mp later
      have other : last ≠ ".." := (fit last (member last (by simp))).2.2.1
      refine ⟨ups, before.reverse, ?_, ?_, root⟩
      · rw [turned, back, List.cons_append]
        simp only [advance, if_pos other]
        rw [List.reverse_append, List.reverse_replicate]
      · intro name found
        exact fit name (member name
          (List.mem_cons_of_mem _ (List.mem_reverse.mp found)))
    | nil =>
      rw [back, List.nil_append] at turned
      cases absolute with
      | true =>
        -- At the root there is nowhere to go up to.
        rw [root rfl] at turned
        exact ⟨0, [], by rw [turned]; rfl, nofun, fun _ => rfl⟩
      | false =>
        refine ⟨ups + 1, [], ?_, nofun, nofun⟩
        rw [turned]
        cases ups <;> simp [advance, List.replicate_succ,
          ← List.replicate_succ']

/-- Nothing is left to drop after any number of parts. -/
theorem reduced_foldl {absolute : Bool} {components : List Component}
    (fit : ∀ component ∈ components, Component.Fits component)
    {gone : List String} (start : Reduced ⟨absolute, gone.reverse⟩) :
    Reduced ⟨absolute,
      (components.foldl (advance absolute) gone).reverse⟩ := by
  induction components generalizing gone with
  | nil => exact start
  | cons component rest ih =>
    obtain ⟨first, others⟩ := List.forall_mem_cons.mp fit
    exact ih others (reduced_advance first start)

theorem reduced_normalForm (path : String) :
    Reduced (normalForm path) := by
  have start : Reduced ⟨isAbsolute path, ([] : List String).reverse⟩ :=
    ⟨0, [], rfl, nofun, fun _ => rfl⟩
  exact reduced_foldl (fun _ member => fits_of_mem_parse member) start

/-! ### The text of a normal form -/

theorem isSegment_of_reduced {form : NormalForm}
    (reduced : Reduced form) {name : String}
    (member : name ∈ form.names) : IsSegment name := by
  obtain ⟨ups, names, split, fit, _⟩ := reduced
  rw [split, List.mem_append] at member
  cases member with
  | inl up =>
    rw [List.eq_of_mem_replicate up]
    exact ⟨by decide, by decide⟩
  | inr member => exact isSegment_of_isName (fit name member)

/-- The text of an absolute form with names. -/
theorem toList_render_absolute {names : List String} (some : names ≠ []) :
    (NormalForm.render ⟨true, names⟩).toList = written names := by
  cases names with
  | nil => exact absurd rfl some
  | cons name names => exact toList_slash_intercalate some

/-- The text of a relative form with names, behind a slash. -/
theorem toList_render_relative {names : List String} (some : names ≠ []) :
    '/' :: (NormalForm.render ⟨false, names⟩).toList = written names := by
  cases names with
  | nil => exact absurd rfl some
  | cons name names =>
    have text := toList_slash_intercalate some
    rw [String.toList_append] at text
    exact text

/-- A slash starts the text of an absolute form, and of no other. -/
theorem isAbsolute_render {form : NormalForm} (reduced : Reduced form) :
    isAbsolute form.render = form.absolute := by
  obtain ⟨absolute, names⟩ := form
  cases names with
  | nil => cases absolute <;> decide
  | cons name names =>
    have some := List.cons_ne_nil name names
    cases absolute with
    | true =>
      rw [isAbsolute, toList_render_absolute some]
      rfl
    | false =>
      -- The text starts with a character of a name.
      have fits := isSegment_of_reduced reduced List.mem_cons_self
      have text := toList_render_relative some
      rw [written_cons, List.cons_append] at text
      exact isAbsolute_of_toList_eq fits (List.cons.inj text).2

/-- The text of a normal form has its names. The empty relative form is
written as a dot, which is a name by itself. -/
theorem segments_render {form : NormalForm} (reduced : Reduced form)
    (named : form.absolute = true ∨ form.names ≠ []) :
    segments form.render = form.names := by
  have fit (name : String) (member : name ∈ form.names) :=
    isSegment_of_reduced reduced member
  obtain ⟨absolute, names⟩ := form
  by_cases none : names = []
  · subst none
    obtain rfl : absolute = true := by simpa using named
    decide
  · have back := segments_written fit
    cases absolute with
    | true =>
      rw [← toList_render_absolute none, String.ofList_toList] at back
      exact back
    | false =>
      rw [← toList_render_relative none, segments_slash,
        String.ofList_toList] at back
      exact back

/-- Names of entries are kept. -/
theorem foldl_advance_names (absolute : Bool) (gone : List String)
    {names : List String} (fit : ∀ name ∈ names, IsName name) :
    (names.map Component.ofSegment).foldl (advance absolute) gone
      = names.reverse ++ gone := by
  induction names generalizing gone with
  | nil => rfl
  | cons name names ih =>
    obtain ⟨⟨_, current, up, _⟩, others⟩ := List.forall_mem_cons.mp fit
    have kept : Component.ofSegment name = .name name := by
      rw [Component.ofSegment, if_neg current, if_neg up]
    rw [List.map_cons, List.foldl_cons, kept, advance, ih _ others,
      List.reverse_cons, List.append_assoc, List.singleton_append]

/-- Ways up are kept in front of a relative path. -/
theorem foldl_advance_ups (before ups : Nat) :
    ((List.replicate ups "..").map Component.ofSegment).foldl
      (advance false) (List.replicate before "..")
      = List.replicate (before + ups) ".." := by
  induction ups generalizing before with
  | zero => rfl
  | succ ups ih =>
    have up : advance false (List.replicate before "..")
        (Component.ofSegment "..") = List.replicate (before + 1) ".." := by
      cases before <;> rfl
    rw [List.replicate_succ, List.map_cons, List.foldl_cons, up, ih,
      Nat.add_assoc, Nat.add_comm 1]

/-- Going through the names of a normal form leaves all of them. -/
theorem foldl_advance_of_reduced {form : NormalForm}
    (reduced : Reduced form) :
    (form.names.map Component.ofSegment).foldl (advance form.absolute) []
      = form.names.reverse := by
  obtain ⟨ups, names, split, fit, root⟩ := reduced
  rw [split, List.map_append, List.foldl_append, List.reverse_append,
    List.reverse_replicate]
  cases absolute : form.absolute with
  | true =>
    rw [root absolute]
    exact foldl_advance_names true [] fit
  | false =>
    have front := foldl_advance_ups 0 ups
    rw [Nat.zero_add] at front
    rw [List.replicate_zero] at front
    rw [front]
    exact foldl_advance_names false _ fit

/-- The normal form of the text of a normal form is that form. -/
theorem normalForm_render {form : NormalForm} (reduced : Reduced form) :
    normalForm form.render = form := by
  by_cases named : form.absolute = true ∨ form.names ≠ []
  · have walk := foldl_advance_of_reduced reduced
    have start : (parse form.render).foldl (advance form.absolute) []
        = form.names.reverse := by
      rw [parse, segments_render reduced named, List.foldl_append,
        ← walk]
      split <;> rfl
    show (⟨isAbsolute form.render, _⟩ : NormalForm) = form
    rw [isAbsolute_render reduced, start, List.reverse_reverse]
  · -- The dot is dropped again.
    obtain ⟨absolute, names⟩ := form
    simp only [Bool.not_eq_true, not_or, Decidable.not_not] at named
    obtain ⟨rfl, rfl⟩ := named
    decide

/-- The second time there is nothing to drop. -/
theorem normalize_normalize (path : String) :
    Path.normalize (Path.normalize path) = Path.normalize path := by
  rw [Path.normalize, Path.normalize, normalForm_render (reduced_normalForm path)]

end MountSpace.Proofs.Paths
