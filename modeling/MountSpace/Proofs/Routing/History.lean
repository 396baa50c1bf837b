import Mathlib.Data.List.Nodup
import MountSpace.Proofs.Routing.Table

/-!
# `MountSpace.Proofs.Routing.History`: how a table came about

A table changes by calls that add a mount or take one out, and some of them
fail. What is mounted in the end can be told from the calls alone, in the
order in which it came (`stillMounted`), without any depths. The table
holds the same mounts in another order (`Arranges`).

* `Arranges.place`, `Arranges.without`: the two ways to change a table keep
  that order.
* `arranges_tableAfter`: so every table has it. `Arranges.eq_mergeSort`
  says that there is only one such order, the stable sort by depth.
* `find_eq_of_mem_iff`: a search does not see in which order mounts of one
  depth came.
* `table_of_calls`: all of this for any sequence of calls.
-/

set_option autoImplicit false

namespace MountSpace.Proofs.Routing

open MountSpace.Path (segments depth)
open MountTable (place find)
open Paths (IsNormal)

variable {ρ : Type}

/-! ### Calls -/

/-- A call that is to change a table. -/
inductive TableCall (ρ : Type)
  | insert (mount : Mount ρ)
  | remove (path : String)
  deriving DecidableEq, Repr

/-- The table after a call, or what the call failed with. -/
def TableCall.attempt (mounts : MountTable ρ) :
    TableCall ρ → Except Fault (MountTable ρ)
  | .insert mount => mounts.insert mount
  | .remove path => (mounts.remove path).map Prod.snd

/-- The table that is there after a call. -/
def TableCall.apply (mounts : MountTable ρ) (call : TableCall ρ) :
    MountTable ρ :=
  match call.attempt mounts with
  | .ok after => after
  | .error _ => mounts

/-- The table after some calls on an empty one. -/
def tableAfter (calls : List (TableCall ρ)) : MountTable ρ :=
  calls.foldl TableCall.apply []

/-- What is mounted after one more call, in the order in which it came. -/
def TableCall.record (came : List (Mount ρ)) :
    TableCall ρ → List (Mount ρ)
  | .insert mount =>
    if mount.path ∈ came.map Mount.path then came else came ++ [mount]
  | .remove path => came.filter fun mount => mount.path ≠ path

/-- What is still mounted after some calls, in the order in which it
came. -/
def stillMounted (calls : List (TableCall ρ)) : List (Mount ρ) :=
  calls.foldl TableCall.record []

/-! ### The order -/

/-- The mounts of one depth. -/
def level (mounts : List (Mount ρ)) (number : Nat) : List (Mount ρ) :=
  mounts.filter fun mount => depth mount.path = number

theorem mem_level {mounts : List (Mount ρ)} {number : Nat}
    {mount : Mount ρ} :
    mount ∈ level mounts number
      ↔ mount ∈ mounts ∧ depth mount.path = number := by
  simp [level]

@[simp]
theorem level_nil (number : Nat) : level ([] : List (Mount ρ)) number = [] :=
  rfl

theorem level_cons (mount : Mount ρ) (mounts : List (Mount ρ))
    (number : Nat) :
    level (mount :: mounts) number
      = if depth mount.path = number then mount :: level mounts number
        else level mounts number := by
  simp [level, List.filter_cons]

@[simp]
theorem level_append (mounts later : List (Mount ρ)) (number : Nat) :
    level (mounts ++ later) number
      = level mounts number ++ level later number :=
  List.filter_append mounts later

/-- It makes no difference what is left out first. -/
theorem level_filter (mounts : List (Mount ρ)) (keep : Mount ρ → Bool)
    (number : Nat) :
    level (mounts.filter keep) number
      = (level mounts number).filter keep := by
  simp [level, List.filter_filter, Bool.and_comm]

/-- A table holds what has come, no path twice and the deeper paths first,
and those of one depth in the order in which they came. -/
structure Arranges (mounts : MountTable ρ) (came : List (Mount ρ)) :
    Prop where
  perm : List.Perm mounts came
  distinct : (mounts.map Mount.path).Nodup
  descending :
    mounts.Pairwise fun mount later => depth later.path ≤ depth mount.path
  level : ∀ number, level mounts number = level came number

theorem arranges_nil : Arranges ([] : MountTable ρ) [] :=
  ⟨List.Perm.refl _, List.nodup_nil, List.Pairwise.nil, fun _ => rfl⟩

variable {mounts after others : MountTable ρ} {came : List (Mount ρ)}
  {mount : Mount ρ} {path : String}

theorem Arranges.mem_paths_iff (arranges : Arranges mounts came) :
    path ∈ mounts.map Mount.path ↔ path ∈ came.map Mount.path :=
  (arranges.perm.map Mount.path).mem_iff

/-- A new mount comes last among those of its depth. -/
theorem level_place
    (descending : mounts.Pairwise fun mount later =>
      depth later.path ≤ depth mount.path) (number : Nat) :
    level (place mount mounts) number
      = level (mounts ++ [mount]) number := by
  induction mounts with
  | nil => rfl
  | cons other rest ih =>
    obtain ⟨deepest, descendingRest⟩ := List.pairwise_cons.mp descending
    rw [place]
    by_cases deeper : depth other.path < depth mount.path
    · rw [if_pos deeper, level_append, level_cons, level_cons mount]
      by_cases here : depth mount.path = number
      · -- Nothing that is left is as deep as the new mount.
        have none : level (other :: rest) number = [] := by
          rw [List.eq_nil_iff_forall_not_mem]
          intro later member
          obtain ⟨member, same⟩ := mem_level.mp member
          cases List.mem_cons.mp member with
          | inl first =>
            subst first
            omega
          | inr member =>
            have := deepest later member
            omega
        simp [here, none]
      · simp [here]
    · rw [if_neg deeper, level_cons, ih descendingRest, List.cons_append,
        level_cons]

theorem Arranges.place (arranges : Arranges mounts came)
    (free : mount.path ∉ mounts.map Mount.path) :
    Arranges (place mount mounts) (came ++ [mount]) := by
  have perm := perm_place mount mounts
  constructor
  · calc List.Perm (MountTable.place mount mounts) (mount :: mounts) := perm
      _ |>.Perm (mount :: came) := arranges.perm.cons mount
      _ |>.Perm (came ++ [mount]) := (List.perm_append_singleton _ _).symm
  · rw [(perm.map Mount.path).nodup_iff]
    exact List.nodup_cons.mpr ⟨free, arranges.distinct⟩
  · exact pairwise_place mount arranges.descending
  · intro number
    rw [level_place arranges.descending, level_append, level_append,
      arranges.level]

/-- Taking out a path that may be there or not. -/
theorem Arranges.without (arranges : Arranges mounts came)
    (path : String) :
    Arranges (mounts.filter fun mount => mount.path ≠ path)
      (came.filter fun mount => mount.path ≠ path) := by
  have fewer : List.Sublist
      (mounts.filter fun mount => mount.path ≠ path) mounts :=
    List.filter_sublist
  refine ⟨arranges.perm.filter _, ?_, ?_, ?_⟩
  · exact arranges.distinct.sublist (fewer.map Mount.path)
  · exact arranges.descending.sublist fewer
  · intro number
    rw [level_filter, level_filter, arranges.level]

/-! ### What the calls do -/

theorem insert_eq_error_iff {fault : Fault} :
    mounts.insert mount = .error fault
      ↔ fault = .alreadyExists
        ∧ mount.path ∈ mounts.map Mount.path := by
  have taken : mounts.contains mount.path = true
      ↔ mount.path ∈ mounts.map Mount.path := by
    simp [MountTable.contains]
  rw [MountTable.insert, ← taken]
  split
  · next found => simp [found, eq_comm]
  · next free => simp [free]

theorem remove_eq_error_iff {fault : Fault} :
    mounts.remove path = .error fault
      ↔ fault = .invalidArgument ∧ path ∉ mounts.map Mount.path := by
  induction mounts with
  | nil => simp [MountTable.remove, eq_comm]
  | cons mount rest ih =>
    rw [MountTable.remove, List.map_cons, List.mem_cons, not_or]
    split
    · next here => simp [here]
    · next elsewhere =>
      have other : path ≠ mount.path := fun same => elsewhere same.symm
      cases later : MountTable.remove rest path with
      | error cause =>
        rw [later] at ih
        show Except.error cause = Except.error fault ↔ _
        rw [ih, and_iff_right other]
      | ok answer =>
        rw [later] at ih
        constructor
        · intro fails
          cases fails
        · rintro ⟨cause, _, apart⟩
          cases ih.mpr ⟨cause, apart⟩

/-- What is left when a mount has been taken out are the other paths. -/
theorem filter_of_remove {found : Mount ρ}
    (distinct : (mounts.map Mount.path).Nodup)
    (removed : mounts.remove path = .ok (found, after)) :
    after = mounts.filter fun mount => mount.path ≠ path := by
  obtain ⟨rfl, before, later, rfl, rfl⟩ := remove_eq_ok removed
  -- The first mount at the path is the only one.
  simp only [List.map_append, List.map_cons, List.nodup_middle,
    List.nodup_cons] at distinct
  have others : ∀ mount ∈ before ++ later, mount.path ≠ found.path := by
    intro mount member same
    refine distinct.1 ?_
    rw [← List.map_append, ← same]
    exact List.mem_map_of_mem member
  have all := List.filter_eq_self.mpr fun mount member =>
    decide_eq_true (others mount member)
  rw [List.filter_append] at all
  rw [List.filter_append, List.filter_cons_of_neg (by simp), all]

/-- Where nothing is mounted there is nothing to leave out. -/
theorem filter_of_free {all : List (Mount ρ)}
    (free : path ∉ all.map Mount.path) :
    (all.filter fun mount => mount.path ≠ path) = all := by
  refine List.filter_eq_self.mpr fun mount member => ?_
  exact decide_eq_true fun same =>
    free (same ▸ List.mem_map_of_mem member)

theorem arranges_apply (arranges : Arranges mounts came)
    (call : TableCall ρ) :
    Arranges (call.apply mounts) (call.record came) := by
  cases call with
  | insert mount =>
    simp only [TableCall.apply, TableCall.attempt, TableCall.record,
      ← arranges.mem_paths_iff]
    cases inserted : mounts.insert mount with
    | ok after =>
      obtain ⟨free, rfl⟩ := insert_eq_ok_iff.mp inserted
      rw [if_neg free]
      exact arranges.place free
    | error fault =>
      rw [if_pos (insert_eq_error_iff.mp inserted).2]
      exact arranges
  | remove path =>
    have without := arranges.without path
    simp only [TableCall.apply, TableCall.attempt, TableCall.record]
    cases removed : mounts.remove path with
    | ok answer =>
      obtain ⟨found, after⟩ := answer
      rw [← filter_of_remove arranges.distinct removed] at without
      exact without
    | error fault =>
      rw [filter_of_free (remove_eq_error_iff.mp removed).2] at without
      exact without

/-- A call that fails changes neither the table nor what is mounted. -/
theorem unchanged_of_fails (arranges : Arranges mounts came)
    {call : TableCall ρ} {fault : Fault}
    (fails : call.attempt mounts = .error fault) :
    call.apply mounts = mounts ∧ call.record came = came := by
  refine ⟨by rw [TableCall.apply, fails], ?_⟩
  cases call with
  | insert mount =>
    have taken := (insert_eq_error_iff.mp fails).2
    exact if_pos (arranges.mem_paths_iff.mp taken)
  | remove path =>
    cases removed : mounts.remove path with
    | ok answer =>
      rw [TableCall.attempt, removed] at fails
      nomatch fails
    | error cause =>
      have free := (remove_eq_error_iff.mp removed).2
      rw [arranges.mem_paths_iff] at free
      exact filter_of_free free

/-- Every table is in order, whatever calls it came from. -/
theorem arranges_tableAfter (calls : List (TableCall ρ)) :
    Arranges (tableAfter calls) (stillMounted calls) := by
  have run : ∀ (mounts : MountTable ρ) (came : List (Mount ρ)),
      Arranges mounts came →
      Arranges (calls.foldl TableCall.apply mounts)
        (calls.foldl TableCall.record came) := by
    induction calls with
    | nil => exact fun _ _ arranges => arranges
    | cons call later ih =>
      intro mounts came arranges
      exact ih _ _ (arranges_apply arranges call)
  exact run [] [] arranges_nil

/-- A mount that was put in can be taken out, and all others are where they
were. -/
theorem remove_place (free : mount.path ∉ mounts.map Mount.path) :
    MountTable.remove (place mount mounts) mount.path
      = .ok (mount, mounts) := by
  induction mounts with
  | nil => simp [place, MountTable.remove]
  | cons other rest ih =>
    rw [List.map_cons, List.mem_cons, not_or] at free
    obtain ⟨apart, free⟩ := free
    rw [place]
    split
    · simp [MountTable.remove]
    · rw [MountTable.remove, if_neg (Ne.symm apart), ih free]
      rfl

/-- Only what was put in is mounted. -/
theorem inserted_of_mem {calls : List (TableCall ρ)}
    (member : mount ∈ stillMounted calls) :
    TableCall.insert mount ∈ calls := by
  have run : ∀ came : List (Mount ρ),
      mount ∈ calls.foldl TableCall.record came →
      mount ∈ came ∨ TableCall.insert mount ∈ calls := by
    clear member
    induction calls with
    | nil => exact fun _ => Or.inl
    | cons call later ih =>
      intro came member
      rw [List.mem_cons]
      cases ih _ member with
      | inr member => exact Or.inr (Or.inr member)
      | inl member =>
        cases call with
        | insert other =>
          rw [TableCall.record] at member
          split at member
          · exact Or.inl member
          · rw [List.mem_append, List.mem_singleton] at member
            exact member.imp id fun same => Or.inl (congrArg _ same)
        | remove path => exact Or.inl (List.mem_filter.mp member).1
  simpa using run [] member

/-! ### The stable sort -/

theorem mem_iff_of_levels
    (same : ∀ number, level mounts number = level others number)
    (mount : Mount ρ) : mount ∈ mounts ↔ mount ∈ others := by
  have here := congrArg (mount ∈ ·) (same (depth mount.path))
  simpa [mem_level] using here

/-- The levels of a descending list determine it. -/
theorem eq_of_levels
    (descending : mounts.Pairwise fun mount later =>
      depth later.path ≤ depth mount.path)
    (descendingOthers : others.Pairwise fun mount later =>
      depth later.path ≤ depth mount.path)
    (same : ∀ number, level mounts number = level others number) :
    mounts = others := by
  have mem_iff := mem_iff_of_levels same
  induction mounts generalizing others with
  | nil =>
    cases others with
    | nil => rfl
    | cons other later => simpa using mem_iff other
  | cons mount rest ih =>
    cases others with
    | nil => simpa using mem_iff mount
    | cons other later =>
      obtain ⟨deepest, sorted⟩ := List.pairwise_cons.mp descending
      obtain ⟨deepestOther, sortedLater⟩ :=
        List.pairwise_cons.mp descendingOthers
      -- Each list starts with a mount that is as deep as any.
      have depths : depth mount.path = depth other.path := by
        have left := (mem_iff mount).mp List.mem_cons_self
        have right := (mem_iff other).mpr List.mem_cons_self
        rw [List.mem_cons] at left right
        rcases left with rfl | left
        · rfl
        · rcases right with rfl | right
          · rfl
          · have := deepest other right
            have := deepestOther mount left
            omega
      have first := same (depth mount.path)
      rw [level_cons, level_cons, if_pos rfl, if_pos depths.symm] at first
      obtain ⟨rfl, _⟩ := List.cons.inj first
      have tails (number : Nat) :
          level rest number = level later number := by
        have both := same number
        rw [level_cons, level_cons] at both
        split at both
        · exact (List.cons.inj both).2
        · exact both
      rw [ih sorted sortedLater tails (mem_iff_of_levels tails)]

/-- The order of a table: deeper paths come first. -/
def deeperFirst (mount later : Mount ρ) : Bool :=
  depth later.path ≤ depth mount.path

theorem deeperFirst_trans (first second third : Mount ρ)
    (before : deeperFirst first second = true)
    (behind : deeperFirst second third = true) :
    deeperFirst first third = true := by
  simp only [deeperFirst, decide_eq_true_eq] at *
  omega

theorem deeperFirst_total (first second : Mount ρ) :
    (deeperFirst first second || deeperFirst second first) = true := by
  simp only [deeperFirst, Bool.or_eq_true, decide_eq_true_eq]
  omega

/-- A stable sort leaves what is of one depth as it came. -/
theorem level_mergeSort (came : List (Mount ρ)) (number : Nat) :
    level (came.mergeSort deeperFirst) number = level came number := by
  have ties : (level came number).Pairwise fun mount later =>
      deeperFirst mount later = true := by
    refine List.pairwise_of_forall_mem_list ?_
    intro mount member later memberLater
    have here := (mem_level.mp member).2
    have there := (mem_level.mp memberLater).2
    simp [deeperFirst, here, there]
  -- Ties stay in their order, and a sort neither adds nor leaves out.
  have kept : List.Sublist (level came number)
      (came.mergeSort deeperFirst) :=
    List.sublist_mergeSort deeperFirst_trans deeperFirst_total ties
      List.filter_sublist
  have within : List.Sublist (level came number)
      (level (came.mergeSort deeperFirst) number) := by
    have filtered := kept.filter fun mount => depth mount.path = number
    rw [level, List.filter_filter] at filtered
    simpa [level] using filtered
  have lengths : (level came number).length
      = (level (came.mergeSort deeperFirst) number).length :=
    ((came.mergeSort_perm deeperFirst).filter _).length_eq.symm
  exact (within.eq_of_length lengths).symm

/-- There is only one way to arrange what has come. -/
theorem Arranges.eq_mergeSort (arranges : Arranges mounts came) :
    mounts = came.mergeSort deeperFirst := by
  refine eq_of_levels arranges.descending ?_ ?_
  · have sorted := List.pairwise_mergeSort (@deeperFirst_trans ρ)
      deeperFirst_total came
    simpa [deeperFirst] using sorted
  · intro number
    rw [level_mergeSort, arranges.level]

/-! ### Searching -/

/-- Two tables with the same mounts answer every search alike. -/
theorem find_eq_of_mem_iff (ordered : Ordered mounts)
    (orderedOthers : Ordered others)
    (same : ∀ mount, mount ∈ mounts ↔ mount ∈ others)
    (normal : IsNormal path) : find mounts path = find others path := by
  cases found : find mounts path with
  | error fault =>
    have apart := (find_eq_error_iff ordered normal).mp found
    simp only [same] at apart
    exact ((find_eq_error_iff orderedOthers normal).mpr apart).symm
  | ok answer =>
    obtain ⟨mount, rest⟩ := answer
    obtain ⟨nearest, normalRest, names⟩ := find_eq_ok ordered normal found
    cases foundOther : find others path with
    | error fault =>
      have apart := ((find_eq_error_iff orderedOthers normal).mp foundOther).2
      exact absurd nearest.above (apart mount ((same mount).mp nearest.member))
    | ok answer =>
      obtain ⟨other, left⟩ := answer
      obtain ⟨nearestOther, normalLeft, namesOther⟩ :=
        find_eq_ok orderedOthers normal foundOther
      have carried : Nearest mounts path other := by
        refine ⟨(same other).mpr nearestOther.member, nearestOther.above, ?_⟩
        intro third member
        exact nearestOther.longest third ((same third).mp member)
      -- Two mounts of one depth do not both lie above the path.
      have one : other = mount := nearest.eq carried
      subst one
      have segmentsRest : segments rest = segments left :=
        List.append_cancel_left (names.trans namesOther.symm)
      rw [normalRest.ext normalLeft segmentsRest]

/-- Calls that put in mounts at absolute paths in normal form. -/
def Normalised (calls : List (TableCall ρ)) : Prop :=
  ∀ mount, TableCall.insert mount ∈ calls → IsNormal mount.path

theorem ordered_tableAfter {calls : List (TableCall ρ)}
    (normalised : Normalised calls) : Ordered (tableAfter calls) := by
  have arranges := arranges_tableAfter calls
  refine ⟨?_, arranges.distinct, arranges.descending⟩
  intro mount member
  exact normalised mount (inserted_of_mem (arranges.perm.mem_iff.mp member))

/-! ### Histories -/

/-- After any calls, a table holds what was put in and is still there, no
path twice, the deeper paths first and those of one depth in the order in
which they came, which is what a stable sort by depth makes of them. A
call fails only for a path that is taken, or where nothing is mounted, and
then nothing changes. Putting a mount in and taking it out again gives back
the same table. And two histories over absolute paths in normal form that
end with the same mounts answer every search alike. -/
theorem table_of_calls (calls : List (TableCall ρ)) :
    let mounts := tableAfter calls
    let came := stillMounted calls
    Arranges mounts came
    ∧ mounts = came.mergeSort deeperFirst
    ∧ (∀ mount fault, mounts.insert mount = .error fault
      ↔ fault = .alreadyExists ∧ mount.path ∈ came.map Mount.path)
    ∧ (∀ path fault, mounts.remove path = .error fault
      ↔ fault = .invalidArgument ∧ path ∉ came.map Mount.path)
    ∧ (∀ call fault, call.attempt mounts = .error fault →
      tableAfter (calls ++ [call]) = mounts
      ∧ stillMounted (calls ++ [call]) = came)
    ∧ (∀ mount after, mounts.insert mount = .ok after →
      after.remove mount.path = .ok (mount, mounts)
      ∧ tableAfter (calls ++ [.insert mount, .remove mount.path]) = mounts)
    ∧ (∀ others, Normalised calls → Normalised others →
      (∀ mount, mount ∈ mounts ↔ mount ∈ tableAfter others) →
      ∀ path, IsNormal path → find mounts path = find (tableAfter others) path)
    := by
  intro mounts came
  have arranges : Arranges mounts came := arranges_tableAfter calls
  refine ⟨arranges, arranges.eq_mergeSort, ?_, ?_, ?_, ?_, ?_⟩
  · intro mount fault
    rw [insert_eq_error_iff, arranges.mem_paths_iff]
  · intro path fault
    rw [remove_eq_error_iff, arranges.mem_paths_iff]
  · intro call fault fails
    have unchanged := unchanged_of_fails arranges fails
    simp only [tableAfter, stillMounted, List.foldl_append]
    exact unchanged
  · intro mount after inserted
    obtain ⟨free, rfl⟩ := insert_eq_ok_iff.mp inserted
    have back := remove_place free
    refine ⟨back, ?_⟩
    have both : TableCall.apply (TableCall.apply mounts (.insert mount))
        (.remove mount.path) = mounts := by
      simp [TableCall.apply, TableCall.attempt, inserted, back, Except.map]
    simp only [tableAfter, List.foldl_append]
    exact both
  · intro others normalised normalisedOthers same path normal
    exact find_eq_of_mem_iff (ordered_tableAfter normalised)
      (ordered_tableAfter normalisedOthers) same normal

/-- Three mounts, one of them taken out and put in again, with a call at a
path that is taken and one where nothing is mounted. -/
def remounted : List (TableCall Nat) :=
  [.insert ⟨"/a", "scratch", 0⟩, .insert ⟨"/b", "scratch", 1⟩,
    .insert ⟨"/a/c", "scratch", 2⟩, .insert ⟨"/b", "scratch", 3⟩,
    .remove "/x", .remove "/a", .insert ⟨"/a", "scratch", 0⟩]

/-- The same mounts in another order. -/
def mountedOnce : List (TableCall Nat) :=
  [.insert ⟨"/a", "scratch", 0⟩, .insert ⟨"/a/c", "scratch", 2⟩,
    .insert ⟨"/b", "scratch", 1⟩]

theorem table_of_calls_sample :
    (tableAfter remounted).map Mount.path = ["/a/c", "/b", "/a"]
    ∧ (tableAfter mountedOnce).map Mount.path = ["/a/c", "/a", "/b"]
    ∧ (tableAfter remounted).insert ⟨"/b", "scratch", 3⟩
      = .error .alreadyExists
    ∧ (tableAfter remounted).remove "/x" = .error .invalidArgument
    ∧ tableAfter (remounted ++ [.insert ⟨"/d", "scratch", 4⟩, .remove "/d"])
      = tableAfter remounted
    ∧ find (tableAfter remounted) "/a/c/e"
      = find (tableAfter mountedOnce) "/a/c/e" := by
  obtain ⟨_, _, taken, free, _, back, search⟩ := table_of_calls remounted
  refine ⟨by decide +kernel, by decide +kernel, ?_, ?_, ?_, ?_⟩
  · exact (taken ⟨"/b", "scratch", 3⟩ .alreadyExists).mpr
      ⟨rfl, by decide +kernel⟩
  · exact (free "/x" .invalidArgument).mpr ⟨rfl, by decide +kernel⟩
  · exact (back ⟨"/d", "scratch", 4⟩ _ (insert_eq_ok_iff.mpr
      ⟨by decide +kernel, rfl⟩)).2
  · have normal : Normalised remounted := by
      intro mount member
      simp only [remounted, List.mem_cons, TableCall.insert.injEq,
        reduceCtorEq, List.not_mem_nil, or_false, false_or] at member
      rcases member with rfl | rfl | rfl | rfl | rfl <;> decide +kernel
    have normalOnce : Normalised mountedOnce := by
      intro mount member
      simp only [mountedOnce, List.mem_cons, TableCall.insert.injEq,
        List.not_mem_nil, or_false] at member
      rcases member with rfl | rfl | rfl <;> decide +kernel
    have same : List.Perm (tableAfter remounted) (tableAfter mountedOnce) := by
      decide +kernel
    exact search mountedOnce normal normalOnce (fun _ => same.mem_iff)
      "/a/c/e" (by decide +kernel)

end MountSpace.Proofs.Routing
