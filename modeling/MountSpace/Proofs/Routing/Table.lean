import Mathlib.Data.List.Nodup
import MountSpace.Proofs.Paths.Absolute

/-!
# `MountSpace.Proofs.Routing.Table`: the nearest mount

A table of mounts is searched from the front, by the text of paths. It
finds the mount whose names are the longest beginning of the names of the
path, because the table is in order (`Ordered`): the paths are absolute
and in normal form, no two are the same, and deeper ones come first.

* `Ordered.insert`, `Ordered.remove`: adding and taking out mounts keeps
  the table in order.
* `find_eq_ok`, `find_eq_error_iff`: what a search finds is the
  nearest mount (`Nearest`) with the names that are left, and it finds
  nothing only where no mount lies above the path.
-/

set_option autoImplicit false

namespace MountSpace.Proofs.Routing

open MountSpace.Path (segments depth)
open MountTable (place find)
open Paths (IsNormal ofNames segments_ofNames isNormal_ofNames
  strip_eq_some_iff)

variable {ρ : Type} {mounts after : MountTable ρ} {mount : Mount ρ}
  {path rest : String}

/-- A table in the order in which it is searched. -/
structure Ordered (mounts : MountTable ρ) : Prop where
  normal : ∀ mount ∈ mounts, IsNormal mount.path
  distinct : (mounts.map Mount.path).Nodup
  descending :
    mounts.Pairwise fun mount later => depth later.path ≤ depth mount.path

theorem ordered_nil : Ordered ([] : MountTable ρ) :=
  ⟨nofun, List.nodup_nil, List.Pairwise.nil⟩

/-- Mounts at the same names are the same. -/
theorem Ordered.eq_of_segments_eq (ordered : Ordered mounts)
    {other : Mount ρ} (member : mount ∈ mounts)
    (memberOther : other ∈ mounts)
    (same : segments mount.path = segments other.path) : mount = other :=
  List.inj_on_of_nodup_map ordered.distinct member memberOther
    ((ordered.normal mount member).ext (ordered.normal other memberOther)
      same)

/-! ### Adding and taking out mounts -/

theorem perm_place (mount : Mount ρ) (mounts : MountTable ρ) :
    List.Perm (place mount mounts) (mount :: mounts) := by
  induction mounts with
  | nil => exact List.Perm.refl _
  | cons other rest ih =>
    rw [place]
    split
    · exact List.Perm.refl _
    · exact (ih.cons other).trans (List.Perm.swap mount other rest)

/-- The others stay as they are, some before the mount and some behind. -/
theorem place_eq_append (mount : Mount ρ) (mounts : MountTable ρ) :
    ∃ before later, mounts = before ++ later
      ∧ place mount mounts = before ++ mount :: later := by
  induction mounts with
  | nil => exact ⟨[], [], rfl, rfl⟩
  | cons other rest ih =>
    rw [place]
    split
    · exact ⟨[], other :: rest, rfl, rfl⟩
    · obtain ⟨before, later, split, placed⟩ := ih
      exact ⟨other :: before, later, by rw [split]; rfl, by rw [placed]; rfl⟩

/-- A mount comes behind those that are at least as deep, and before all
others. -/
theorem pairwise_place (mount : Mount ρ)
    (descending : mounts.Pairwise fun mount later =>
      depth later.path ≤ depth mount.path) :
    List.Pairwise (fun mount later => depth later.path ≤ depth mount.path)
      (place mount mounts) := by
  induction mounts with
  | nil => exact List.pairwise_singleton _ _
  | cons other rest ih =>
    obtain ⟨deepest, others⟩ := List.pairwise_cons.mp descending
    rw [place]
    -- The new mount stands either here or further back.
    by_cases deeper : depth other.path < depth mount.path
    · rw [if_pos deeper]
      refine List.pairwise_cons.mpr ⟨?_, descending⟩
      intro later member
      cases List.mem_cons.mp member with
      | inl first => exact first ▸ Nat.le_of_lt deeper
      | inr member =>
        exact Nat.le_trans (deepest later member) (Nat.le_of_lt deeper)
    · rw [if_neg deeper]
      refine List.pairwise_cons.mpr ⟨?_, ih others⟩
      intro later member
      cases List.mem_cons.mp ((perm_place mount rest).mem_iff.mp member) with
      | inl new => exact new ▸ Nat.le_of_not_lt deeper
      | inr member => exact deepest later member

theorem insert_eq_ok_iff :
    mounts.insert mount = .ok after
      ↔ mount.path ∉ mounts.map Mount.path ∧ after = place mount mounts := by
  have taken : mounts.contains mount.path = true
      ↔ mount.path ∈ mounts.map Mount.path := by
    simp [MountTable.contains]
  rw [MountTable.insert]
  by_cases found : mounts.contains mount.path = true
  · rw [if_pos found]
    constructor
    · nofun
    · intro ⟨free, _⟩
      exact absurd (taken.mp found) free
  · rw [if_neg found]
    constructor
    · intro same
      exact ⟨fun member => found (taken.mpr member),
        (Except.ok.inj same).symm⟩
    · intro ⟨_, same⟩
      rw [same]

theorem Ordered.insert (ordered : Ordered mounts)
    (normal : IsNormal mount.path)
    (inserted : mounts.insert mount = .ok after) : Ordered after := by
  obtain ⟨free, rfl⟩ := insert_eq_ok_iff.mp inserted
  have perm := perm_place mount mounts
  constructor
  · intro found member
    cases List.mem_cons.mp (perm.mem_iff.mp member) with
    | inl new => exact new ▸ normal
    | inr member => exact ordered.normal found member
  · rw [(perm.map Mount.path).nodup_iff]
    exact List.nodup_cons.mpr ⟨free, ordered.distinct⟩
  · exact pairwise_place mount ordered.descending

/-- The mount that is taken out is the one at the path; the others stay
where they are. -/
theorem remove_eq_ok {found : Mount ρ}
    (removed : mounts.remove path = .ok (found, after)) :
    found.path = path ∧ ∃ before later,
      mounts = before ++ found :: later ∧ after = before ++ later := by
  induction mounts generalizing after with
  | nil => nomatch removed
  | cons mount rest ih =>
    rw [MountTable.remove] at removed
    by_cases here : mount.path = path
    · rw [if_pos here] at removed
      cases removed
      exact ⟨here, [], rest, rfl, rfl⟩
    · rw [if_neg here] at removed
      cases later : MountTable.remove rest path with
      | error fault =>
        rw [later] at removed
        nomatch removed
      | ok answer =>
        obtain ⟨other, left⟩ := answer
        rw [later] at removed
        cases removed
        obtain ⟨same, before, behind, rfl, rfl⟩ := ih later
        exact ⟨same, mount :: before, behind, rfl, rfl⟩

theorem Ordered.remove (ordered : Ordered mounts) {found : Mount ρ}
    (removed : mounts.remove path = .ok (found, after)) :
    Ordered after := by
  obtain ⟨_, before, later, rfl, rfl⟩ := remove_eq_ok removed
  have fewer : List.Sublist (before ++ later) (before ++ found :: later) :=
    (List.sublist_cons_self found later).append_left before
  exact ⟨fun mount member => ordered.normal mount (fewer.subset member),
    ordered.distinct.sublist (fewer.map Mount.path),
    ordered.descending.sublist fewer⟩

/-! ### Searching -/

/-- Only what is mounted is found. -/
theorem mem_of_find (found : find mounts path = .ok (mount, rest)) :
    mount ∈ mounts := by
  induction mounts with
  | nil => cases found
  | cons other later ih =>
    rw [find] at found
    split at found
    · cases found
      exact List.mem_cons_self
    · exact List.mem_cons_of_mem _ (ih found)

/-- The mount above a path that has the most names. -/
structure Nearest (mounts : MountTable ρ) (path : String)
    (mount : Mount ρ) : Prop where
  member : mount ∈ mounts
  above : segments mount.path <+: segments path
  longest : ∀ other ∈ mounts, segments other.path <+: segments path →
    other ≠ mount →
    (segments other.path).length < (segments mount.path).length

/-- There is only one nearest mount. -/
theorem Nearest.eq {other : Mount ρ} (nearest : Nearest mounts path mount)
    (nearestOther : Nearest mounts path other) : other = mount := by
  by_cases same : other = mount
  · exact same
  · have shorter := nearest.longest other nearestOther.member
      nearestOther.above same
    have longer := nearestOther.longest mount nearest.member nearest.above
      (Ne.symm same)
    omega

theorem strip_eq_none_iff (above : IsNormal mount.path)
    (normal : IsNormal path) :
    mount.strip path = none
      ↔ ¬ segments mount.path <+: segments path := by
  rw [Option.eq_none_iff_forall_ne_some]
  constructor
  · intro none below
    obtain ⟨left, split⟩ := below
    exact none (ofNames left)
      ((strip_eq_some_iff above normal).mpr ⟨left, split.symm, rfl⟩)
  · intro apart rest found
    obtain ⟨left, split, _⟩ := (strip_eq_some_iff above normal).mp found
    exact apart ⟨left, split.symm⟩

/-- Of two mounts above a path, the one that comes later has fewer
names. -/
theorem length_lt_of_later {later : List (Mount ρ)} {other : Mount ρ}
    (ordered : Ordered (mount :: later)) (member : other ∈ later)
    (above : segments mount.path <+: segments path)
    (aboveOther : segments other.path <+: segments path) :
    (segments other.path).length < (segments mount.path).length := by
  have deeper : depth other.path ≤ depth mount.path :=
    (List.pairwise_cons.mp ordered.descending).1 other member
  have shorter := Nat.lt_or_eq_of_le deeper
  cases shorter with
  | inl less => exact less
  | inr same =>
    -- Beginnings of the same length are the same, and so are the mounts.
    obtain ⟨left, split⟩ := above
    obtain ⟨leftOther, splitOther⟩ := aboveOther
    have names := (List.append_inj (split.trans splitOther.symm)
      same.symm).1
    have twice := ordered.eq_of_segments_eq List.mem_cons_self
      (List.mem_cons_of_mem _ member) names
    have apart := (List.nodup_cons.mp ordered.distinct).1
    exact absurd (twice ▸ List.mem_map_of_mem member) apart

theorem Ordered.tail (ordered : Ordered (mount :: mounts)) :
    Ordered mounts :=
  ⟨fun other member =>
      ordered.normal other (List.mem_cons_of_mem _ member),
    (List.nodup_cons.mp ordered.distinct).2,
    (List.pairwise_cons.mp ordered.descending).2⟩

/-- A search finds the nearest mount and the names below it. -/
theorem find_eq_ok (ordered : Ordered mounts) (normal : IsNormal path)
    (found : find mounts path = .ok (mount, rest)) :
    Nearest mounts path mount ∧ IsNormal rest
      ∧ segments mount.path ++ segments rest = segments path := by
  induction mounts with
  | nil => nomatch found
  | cons other later ih =>
    have above := ordered.normal other List.mem_cons_self
    rw [find] at found
    -- The table lists deeper mounts first, so the first one above the path
    -- is the nearest.
    cases stripped : other.strip path with
    | some left =>
      rw [stripped] at found
      -- Every other one above the path comes later and is less deep.
      cases found
      obtain ⟨names, split, rfl⟩ :=
        (strip_eq_some_iff above normal).mp stripped
      have fit (name : String) (member : name ∈ names) :=
        normal.isName name (split ▸ List.mem_append_right _ member)
      have prefixed : segments mount.path <+: segments path :=
        ⟨names, split.symm⟩
      refine ⟨⟨List.mem_cons_self, prefixed, ?_⟩, isNormal_ofNames fit, ?_⟩
      · intro other member aboveOther different
        cases List.mem_cons.mp member with
        | inl same => exact absurd same different
        | inr member =>
          exact length_lt_of_later ordered member prefixed aboveOther
      · rw [segments_ofNames fit, split]
    | none =>
      rw [stripped] at found
      obtain ⟨nearest, normalRest, split⟩ := ih ordered.tail found
      refine ⟨⟨List.mem_cons_of_mem _ nearest.member, nearest.above, ?_⟩,
        normalRest, split⟩
      intro found member aboveFound different
      cases List.mem_cons.mp member with
      | inl first =>
        -- The first mount does not lie above the path.
        have apart := (strip_eq_none_iff above normal).mp stripped
        exact absurd (first ▸ aboveFound) apart
      | inr member =>
        exact nearest.longest found member aboveFound different

/-- A search finds nothing exactly where no mount lies above the path. -/
theorem find_eq_error_iff (ordered : Ordered mounts)
    (normal : IsNormal path) {fault : Fault} :
    find mounts path = .error fault
      ↔ fault = .notFound
        ∧ ∀ mount ∈ mounts, ¬ segments mount.path <+: segments path := by
  induction mounts with
  | nil => simp [find, eq_comm]
  | cons other later ih =>
    have above := ordered.normal other List.mem_cons_self
    rw [List.forall_mem_cons, find]
    cases stripped : other.strip path with
    | some left =>
      have below : segments other.path <+: segments path := by
        obtain ⟨names, split, _⟩ :=
          (strip_eq_some_iff above normal).mp stripped
        exact ⟨names, split.symm⟩
      constructor
      · nofun
      · intro ⟨_, apart, _⟩
        exact absurd below apart
    | none =>
      have apart := (strip_eq_none_iff above normal).mp stripped
      rw [ih ordered.tail]
      exact ⟨fun ⟨cause, others⟩ => ⟨cause, apart, others⟩,
        fun ⟨cause, _, others⟩ => ⟨cause, others⟩⟩

end MountSpace.Proofs.Routing
