import MountSpace.Proofs.Volumes.Census
import MountSpace.Proofs.Volumes.Rooted

/-!
# `MountSpace.Proofs.Volumes.Handles`: what open files stand for

An open file stands for a path, and moves take that path along. A census
(`Census`) says which file was opened.

* `Tracked`: a site in use and the census of all that was done there, from
  when the volume was mounted or made empty.
* `tracks_planned`, `Tracked.tracks`: each request that is done, and so
  all of them, keep the census in order (`Tracks`).
-/

set_option autoImplicit false

namespace MountSpace.Proofs.Volumes

open Effects Trees

section

variable {σ τ α : Type} {mounted : Mounted} {census : Census}

/-- What is done goes into the census, what is refused does not. -/
def Census.told (census : Census) (request : Request α) :
    Ending τ α → Census
  | .done value _ => census.next request value
  | .refused _ _ | .stopped _ => census

/-- The census of a mounted volume is in order. -/
structure Tracks (mounted : Mounted) (census : Census) : Prop where
  isRoot : IsRoot mounted.root
  word : mounted.geometry.capacity < wordLimit
  accounts : Accounts census
    (fun path => (fileAt mounted.root path).isSome) mounted.handles
    mounted.nextId

theorem pathOf_of_names {text : String} {path : List String}
    (named : Volume.names text = .ok path) : Census.pathOf text = path := by
  rw [Census.pathOf, named]
  rfl

/-! ### One request -/

/-- Accounts only depend on the paths at which there are files. -/
theorem Accounts.of_files {files others : List String → Bool}
    {handles : Keyed FileId Handle} {nextId : FileId}
    (accounts : Accounts census files handles nextId)
    (same : ∀ path, others path = files path) :
    Accounts census others handles nextId := by
  rw [funext same]
  exact accounts

/-- A file that is missing is made before it is opened. -/
theorem accounts_openFile {text : String} {path : List String}
    {flags : OpenFlags} {permissions : UInt32} {plan : Plan FileId}
    (tracks : Tracks mounted census)
    (named : Volume.names text = .ok path)
    (made : mounted.openFile path flags = .ok plan)
    (few : (census.next (.openFile text flags permissions)
      plan.value).opens ≤ 2 ^ 32) :
    Accounts (census.next (.openFile text flags permissions) plan.value)
      (fun path => (fileAt plan.next.root path).isSome) plan.next.handles
      plan.next.nextId := by
  obtain ⟨value, nextId, handles, files⟩ :=
    opens_openFile made
  have before := tracks.accounts
  simp only [Census.next, pathOf_of_names named] at few ⊢
  rw [value, nextId, handles]
  by_cases owned : (census.owner path).isSome = true
  · rw [if_pos owned] at few ⊢
    have isFile := (before.files path).symm.trans owned
    refine (before.opening isFile (Nat.lt_of_succ_le few) flags).of_files ?_
    intro wanted
    rw [files]
    by_cases same : wanted = path
    · simp [same, isFile]
    · simp [same]
  · rw [if_neg owned] at few ⊢
    exact ((before.make path).opening (by simp) (Nat.lt_of_succ_le few)
      flags).of_files files

theorem accounts_unlink {text : String} {path : List String}
    {plan : Plan Unit} (tracks : Tracks mounted census)
    (named : Volume.names text = .ok path)
    (made : mounted.unlink path = .ok plan) :
    Accounts (census.next (.unlink text) plan.value)
      (fun path => (fileAt plan.next.root path).isSome) plan.next.handles
      plan.next.nextId := by
  obtain ⟨handles, nextId, files⟩ := files_unlink tracks.isRoot made
  simp only [Census.next, pathOf_of_names named]
  rw [nextId, handles]
  exact (tracks.accounts.remove path).of_files files

theorem accounts_rename {textFrom textTo : String}
    {source target : List String} {plan : Plan Unit}
    (tracks : Tracks mounted census)
    (namedFrom : Volume.names textFrom = .ok source)
    (namedTo : Volume.names textTo = .ok target)
    (made : mounted.rename source target = .ok plan) :
    Accounts (census.next (.rename textFrom textTo) plan.value)
      (fun path => (fileAt plan.next.root path).isSome) plan.next.handles
      plan.next.nextId := by
  obtain ⟨nextId, along, files⟩ := moves_rename tracks.isRoot made
  simp only [Census.next, pathOf_of_names namedFrom, pathOf_of_names namedTo]
  rw [nextId]
  refine (tracks.accounts.move source target along).of_files ?_
  intro path
  rw [files]
  cases movedFrom source target path <;> rfl

/-- Requests that leave the files where they are do not change a census. -/
theorem next_eq_self {request : Request α} (still : ¬ Rearranges request)
    (value : α) : census.next request value = census := by
  cases request with
  | openFile | unlink | rename => exact absurd trivial still
  | _ => rfl

/-- A plan that is carried out keeps the census in order. -/
theorem tracks_planned {request : Request α} {plan : Plan α}
    (tracks : Tracks mounted census)
    (made : planned ⟨some mounted⟩ request = .ok plan)
    (few : (census.next request plan.value).opens ≤ 2 ^ 32) :
    Tracks plan.next (census.next request plan.value) := by
  obtain ⟨_, known, follows⟩ := follows_planned made
  cases known
  obtain ⟨geometry, isRoot, _⟩ := follows tracks.isRoot
  refine ⟨isRoot, geometry ▸ tracks.word, ?_⟩
  by_cases still : Rearranges request
  · cases request with
    | openFile text flags permissions =>
      rw [planned] at made
      split at made
      · cases made
      · obtain ⟨path, named, made⟩ := bind_eq_ok_iff.mp made
        exact accounts_openFile tracks named made few
    | unlink text =>
      obtain ⟨path, named, made⟩ := bind_eq_ok_iff.mp made
      exact accounts_unlink tracks named made
    | rename textFrom textTo =>
      obtain ⟨source, namedFrom, made⟩ := bind_eq_ok_iff.mp made
      obtain ⟨target, namedTo, made⟩ := bind_eq_ok_iff.mp made
      split at made
      · cases made
      · exact accounts_rename tracks namedFrom namedTo made
    | _ => exact absurd still id
  · have untouched := untouched_planned tracks.isRoot still made
    rw [next_eq_self still, untouched.nextId]
    exact (tracks.accounts.congr untouched.handles).of_files untouched.files

/-! ### Any order of requests -/

variable [BlockDevice σ]

/-- A site in use, with the census of what was done there since the volume
was mounted or made empty. The device may do what it likes. -/
inductive Tracked : Site Volume σ → Census → Prop
  | start {site after : Site Volume σ} {request : Request Unit}
    {mounted : Mounted} (anew : request = .mount ∨ request = .format)
    (done : (Volume.serve request).run site = .done () after)
    (known : after.driver = ⟨some mounted⟩) :
    Tracked after (.start mounted.root)
  | between {site : Site Volume σ} {census : Census} (medium : Medium σ)
    (tracked : Tracked site census) : Tracked { site with medium } census
  | request {α : Type} {site after : Site Volume σ} {census : Census}
    (request : Request α) (files : AboutFiles request)
    (tracked : Tracked site census)
    (left : ((Volume.serve request).run site).after? = some after) :
    Tracked after (census.told request ((Volume.serve request).run site))

/-- At the start nothing is open, and the tree is one that was checked. -/
theorem tracks_start {site after : Site Volume σ} {request : Request Unit}
    (anew : request = .mount ∨ request = .format)
    (done : (Volume.serve request).run site = .done () after)
    (known : after.driver = ⟨some mounted⟩) :
    Tracks mounted (.start mounted.root) := by
  rcases anew with rfl | rfl
  · have meets := ensures_mounted site trivial
    have done : Volume.mount.run site = .done () after := done
    rw [done] at meets
    obtain ⟨root, geometry, fits, now⟩ := meets
    cases known.symm.trans now
    exact ⟨fits.isRoot, fits.word, accounts_start root 0⟩
  · have meets := ensures_formatted site rfl
    have done : Volume.format.run site = .done () after := done
    rw [done] at meets
    obtain ⟨geometry, fits, now⟩ := meets
    have same := congrArg Volume.mounted (known.symm.trans now)
    obtain ⟨old, _, rfl⟩ := Option.map_eq_some_iff.mp same.symm
    exact ⟨isRoot_empty, fits.word, accounts_start Tree.empty old.nextId⟩

theorem opens_le_next (request : Request α) (value : α) :
    census.opens ≤ (census.next request value).opens := by
  cases request with
  | openFile text flags permissions =>
    simp only [Census.next, Census.opening]
    split
    · exact Nat.le_succ _
    · exact Nat.le_succ _
  | _ => exact Nat.le_refl _

/-- Files are opened, and never taken back. -/
theorem opens_le_told (request : Request α) (ending : Ending τ α) :
    census.opens ≤ (census.told request ending).opens := by
  cases ending with
  | done value state => exact opens_le_next request value
  | refused | stopped => exact Nat.le_refl _

/-- As long as no number has been given twice, the census is in order. -/
theorem Tracked.tracks {site : Site Volume σ}
    (tracked : Tracked site census) (few : census.opens ≤ 2 ^ 32) :
    ∃ mounted, site.driver = ⟨some mounted⟩ ∧ Tracks mounted census := by
  induction tracked with
  | start anew done known => exact ⟨_, known, tracks_start anew done known⟩
  | between medium tracked ih => exact ih few
  | @request α site after census request files tracked left ih =>
    obtain ⟨mounted, known, tracks⟩ :=
      ih (Nat.le_trans (opens_le_told request _) few)
    have meets := (ensures_planned files).apply known
    cases ending : (Volume.serve request).run site with
    | done value final =>
      rw [ending] at meets left few
      cases left
      obtain ⟨plan, made, rfl, next⟩ := meets
      exact ⟨plan.next, next, tracks_planned tracks made few⟩
    | refused fault final =>
      rw [ending] at meets left
      cases left
      exact ⟨mounted, meets, tracks⟩
    | stopped trap =>
      rw [ending] at left
      nomatch left

end

end MountSpace.Proofs.Volumes
