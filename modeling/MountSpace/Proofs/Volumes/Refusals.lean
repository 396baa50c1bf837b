import MountSpace.Proofs.Volumes.Persistence

/-!
# `MountSpace.Proofs.Volumes.Refusals`: requests that are refused

A volume changes what it holds in memory when a request is done, and not
before: whatever the device does, a request that is refused leaves the
volume as it was, with its tree, its open files and all else.

* `driver_of_refused`: that holds of every request but one to unmount.
* `ensures_unmounted`: an unmount, done or refused, leaves a volume that is
  not mounted, for the tree is given up before the device is asked.
-/

set_option autoImplicit false

namespace MountSpace.Proofs.Volumes

open Effects

section

variable {σ α β : Type} {volume : Volume}

/-- An operation that leaves the volume alone when it is refused. -/
def Spares (volume : Volume) (action : Action (Site Volume σ) α) : Prop :=
  Ensures (fun site => site.driver = volume) action (fun _ _ => True)
    (fun _ site => site.driver = volume)

/-- What is asked of the medium does not touch the volume. -/
theorem spares_onMedium_bind {action : Action (Medium σ) β}
    {next : β → Action (Site Volume σ) α}
    (spares : ∀ value, Spares volume (next value)) :
    Spares volume (Site.onMedium action >>= next) := by
  have keeps : Keeps (fun site : Site Volume σ => site.driver = volume)
      (Site.onMedium action) := keeps_onMedium (· = volume) action
  exact ensures_bind keeps spares

/-- A change that is only noted afterwards is the end of a request that is
done. -/
theorem spares_modify_note (change : Site Volume σ → Site Volume σ)
    (event : Event) :
    Spares volume (Action.modify change >>= fun _ =>
      Site.onMedium (Medium.note event)) :=
  fun _ _ => trivial

variable [BlockDevice σ]

theorem spares_mount : Spares volume (Volume.mount (σ := σ)) :=
  spares_onMedium_bind fun _ => spares_modify_note _ _

theorem spares_format : Spares volume (Volume.format (σ := σ)) :=
  spares_onMedium_bind fun _ => spares_modify_note _ _

/-- A volume without a tree has none to lose, and one with a tree gives
it up first of all. -/
theorem ensures_unmounted :
    Ensures (fun _ : Site Volume σ => True) Volume.unmount
      (fun _ site => site.driver = ⟨none⟩)
      (fun _ site => site.driver = ⟨none⟩) := by
  intro site _
  rw [Volume.unmount, Action.run_bind, run_getMounted, current]
  cases found : site.driver.mounted with
  | none => exact congrArg Volume.mk found
  | some mounted =>
    have rest : Keeps (fun site : Site Volume σ => site.driver = ⟨none⟩)
        (Site.onMedium do
          Medium.control .sync
          Medium.control .shutdown) :=
      keeps_onMedium (fun volume : Volume => volume = ⟨none⟩) _
    exact rest { site with driver := ⟨none⟩ } rfl

/-- Requests to give the tree up. -/
def IsUnmount : Request α → Prop
  | .unmount => True
  | _ => False

/-- A request that is refused leaves the volume as it was, whatever the
device has done: whether it is mounted, its tree, its open files, the
number for the next one and its geometry. Only a request to unmount is
another matter. -/
theorem driver_of_refused {request : Request α}
    (other : ¬ IsUnmount request) {site after : Site Volume σ}
    {fault : Fault}
    (refused : (Volume.serve request).run site = .refused fault after) :
    after.driver = site.driver := by
  have spares : Spares site.driver
      (Volume.serve request : Action (Site Volume σ) α) := by
    -- A request about files that has no plan has done nothing.
    by_cases files : AboutFiles request
    · exact (ensures_planned files).imp (fun _ same => same)
        (fun _ _ _ => trivial) (fun _ _ same => same)
    cases request with
    | mount => exact spares_mount
    | format => exact spares_format
    | unmount => exact absurd trivial other
    | _ => exact absurd trivial files
  have left := spares site rfl
  rw [refused] at left
  exact left

end

/-- A disk of three blocks that is formatted and mounted, and from then on
fails to write the superblock. -/
def worn : Option (Site Volume (Probe RamDisk)) := do
  let site ← asked .format ⟨.fresh, ⟨⟨⟨54, 18, ∅⟩, {}, []⟩, []⟩⟩
  let site ← asked .mount site
  return failing { writes := [0] } site

/-- The superblock on the disk is lost, and no directory is made. -/
theorem driver_of_refused_sample :
    ∃ site after : Site Volume (Probe RamDisk),
      ¬ IsUnmount (.makeDirectory "lost")
      ∧ (Volume.serve (.makeDirectory "lost")).run site
        = .refused .ioError after
      ∧ after.medium.device.device ≠ site.medium.device.device
      ∧ rootOf after = some Tree.empty
      ∧ after.driver = site.driver := by
  have fails : (worn.map fun site =>
      match (Volume.serve (.makeDirectory "lost")).run site with
      | .refused .ioError after =>
        some (decide (after.medium.device.device
          = site.medium.device.device), rootOf after)
      | _ => none)
      = some (some (false, some Tree.empty)) := by
    decide +kernel
  obtain ⟨site, _, ends⟩ := Option.map_eq_some_iff.mp fails
  split at ends
  · next after refused =>
    obtain ⟨different, root⟩ := Prod.mk.inj (Option.some.inj ends)
    have other : ¬ IsUnmount (.makeDirectory "lost") := fun none => none
    exact ⟨site, after, other, refused, of_decide_eq_false different, root,
      driver_of_refused other refused⟩
  · nomatch ends

end MountSpace.Proofs.Volumes
