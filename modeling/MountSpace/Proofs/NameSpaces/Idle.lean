import MountSpace.Proofs.NameSpaces.Backing
import MountSpace.Proofs.NameSpaces.Volumes
import MountSpace.Proofs.Volumes.Refusals

/-!
# `MountSpace.Proofs.NameSpaces.Idle`: drivers that have been unmounted

A driver that has been unmounted knows no files: a volume has no tree then,
and a scratch volume has no file open and is not mounted. Whatever it is
asked about files, it refuses, and neither it nor its device is changed
(`retiring_idle`).
-/

set_option autoImplicit false

namespace MountSpace.Proofs.NameSpaces

open Effects
open Volumes (AboutFiles ensures_unmounted follows_planned planned
  run_serve_eq_or)

variable {σ α : Type} [BlockDevice σ]

/-- A scratch volume is not mounted and has no file open. -/
structure Unused (scratch : Scratch) : Prop where
  unmounted : scratch.mounted = false
  closed : scratch.handles = []

/-- A driver knows no files. -/
def Idle : Backend → Prop
  | .volume volume => volume.mounted = none
  | .scratch hampered => Unused hampered.scratch

/-! ### Volumes -/

/-- A volume that is not mounted refuses, and that is all. -/
theorem still_volume {request : Request α} (files : AboutFiles request)
    (medium : Medium σ) :
    Keeps (fun left : Site Volume σ => left = ⟨⟨none⟩, medium⟩)
      (Volume.serve request) := by
  rintro _ rfl
  obtain run | ⟨⟨trap, stops⟩, _⟩ :=
    run_serve_eq_or files (⟨⟨none⟩, medium⟩ : Site Volume σ)
  · rw [run]
    cases made : planned ⟨none⟩ request with
    | error fault => exact rfl
    | ok plan =>
      obtain ⟨mounted, isMounted, _⟩ := follows_planned made
      cases isMounted
  · rw [stops]
    trivial

/-- What a path names is told from memory. -/
theorem keeps_stat_volume (path : String) (site : Site Volume σ) :
    Keeps (fun left => left = site) (Volume.serve (.stat path)) := by
  obtain ⟨⟨_ | mounted⟩, medium⟩ := site
  · have files : AboutFiles (.stat path) := trivial
    exact still_volume files medium
  · rintro _ rfl
    rw [run_stat]
    split
    · exact rfl
    · exact rfl

/-! ### Scratch volumes -/

omit [BlockDevice σ] in
/-- What needs a mounted volume is refused. -/
theorem still_getMounted {site : Site Scratch σ}
    (unmounted : site.driver.mounted = false)
    (next : Scratch → Action (Site Scratch σ) α) :
    Keeps (fun left => left = site) (Scratch.getMounted >>= next) := by
  rintro site rfl
  have refuses : Scratch.getMounted.run site
      = .refused .noDevice site := by
    simp [Scratch.getMounted, Action.run_bind, unmounted]
  rw [Action.run_bind, refuses]
  exact rfl

/-- A scratch volume that is not mounted and has no file open refuses, and
that is all. -/
theorem still_scratch {request : Request α} (files : AboutFiles request)
    {site : Site Scratch σ} (unused : Unused site.driver) :
    Keeps (fun left => left = site) (Scratch.serve request) := by
  cases request with
  | mount | unmount | format => exact files.elim
  -- Files are closed even if the volume is not mounted.
  | close file =>
    rintro site rfl
    have absent : site.driver.handle file = .error .badDescriptor := by
      rw [Scratch.handle, unused.closed]
      rfl
    show Meets _ _ ((Scratch.close file).run site)
    simp only [Scratch.close, Action.run_bind, Site.run_getDriver, absent]
    exact rfl
  | _ => exact still_getMounted unused.unmounted _

theorem keeps_stat_scratch (path : String) (site : Site Scratch σ) :
    Keeps (fun left => left = site) (Scratch.serve (.stat path)) := by
  have mounted : Keeps (fun left => left = site) Scratch.getMounted := by
    refine keeps_bind (fun _ start => start) fun scratch => ?_
    exact keeps_ite (fun _ => keeps_pure _) (fun _ => keeps_refuse _)
  exact keeps_bind mounted fun _ => keeps_ofExcept _

/-- A defect that tells less of files, or more, tells nothing else. -/
theorem keeps_answer_stat {inv : Site Scratch σ → Prop} {path : String}
    (tells : Keeps inv (Scratch.serve (.stat path)))
    (defect : Option Defect) :
    Keeps inv (Hampered.answer defect (.stat path)) := by
  cases defect with
  | none => exact tells
  | some defect =>
    cases defect with
    | shortTransfers | unreadable => exact tells
    | untold =>
      refine keeps_bind tells fun stat => ?_
      exact keeps_ite (fun _ => keeps_refuse _) (fun _ => keeps_pure _)
    | overstated =>
      refine keeps_bind tells fun stat => ?_
      exact keeps_ite (fun _ => keeps_pure _) (fun _ => keeps_pure _)

/-- With a defect a scratch volume does nothing that it could not be asked
without. -/
theorem keeps_answer {inv : Site Scratch σ → Prop}
    (asked : ∀ {β : Type} {request : Request β}, AboutFiles request →
      Keeps inv (Scratch.serve request))
    {request : Request α} (files : AboutFiles request)
    (defect : Option Defect) :
    Keeps inv (Hampered.answer defect request) := by
  -- Defects tell in what is moved and in what is told of files.
  cases request with
  | mount | unmount | format => exact files.elim
  | stat path => exact keeps_answer_stat (asked files) defect
  | read file length position =>
    rcases defect with _ | most | _ | _ | _
    · exact asked files
    · have short : AboutFiles (.read file (min length most) position) :=
        trivial
      exact asked short
    · exact keeps_refuse _
    · exact asked files
    · exact asked files
  | write file data position =>
    rcases defect with _ | most | _ | _ | _
    · exact asked files
    · have short : AboutFiles (.write file (data.take most) position) :=
        trivial
      exact asked short
    · exact asked files
    · exact asked files
    · exact asked files
  | _ => rcases defect with _ | _ | _ | _ | _ <;> exact asked files

/-- And in what is not about files no defect tells. -/
theorem answer_eq_serve {request : Request α}
    (other : ¬ AboutFiles request) (defect : Option Defect) :
    (Hampered.answer defect request : Action (Site Scratch σ) α)
      = Scratch.serve request := by
  cases request with
  | mount | unmount | format =>
    rcases defect with _ | _ | _ | _ | _ <;> rfl
  | _ => exact absurd trivial other

/-- All open files are given up, even if the request is then refused. -/
theorem ensures_unused (defect : Option Defect) :
    Ensures (fun _ : Site Scratch σ => True)
      (Hampered.answer defect .unmount)
      (fun _ site => Unused site.driver)
      (fun _ site => Unused site.driver) := by
  have unmounts : Ensures (fun _ : Site Scratch σ => True) Scratch.unmount
      (fun _ site => Unused site.driver)
      (fun _ site => Unused site.driver) := by
    -- Before anything can be refused.
    refine ensures_bind (show Ensures _ _
      (fun _ (site : Site Scratch σ) => Unused site.driver) _ from
        fun _ _ => ⟨rfl, rfl⟩) fun _ => ?_
    refine keeps_bind (fun _ start => start) fun scratch => ?_
    exact keeps_ite (fun _ => keeps_refuse _) (fun _ => keeps_pure _)
  rw [answer_eq_serve id]
  exact unmounts

/-- What a scratch volume does with its defect, it does among other
drivers. -/
theorem meets_hampered {hampered : Hampered} {medium : Medium σ}
    {request : Request α} {done : α → Site Backend σ → Prop}
    {refused : Fault → Site Backend σ → Prop}
    (meets : Meets
      (fun value left => done value
        ⟨.scratch { hampered with scratch := left.driver }, left.medium⟩)
      (fun fault left => refused fault
        ⟨.scratch { hampered with scratch := left.driver }, left.medium⟩)
      ((Hampered.answer hampered.defect request).run
        ⟨hampered.scratch, medium⟩)) :
    Meets done refused ((Driver.serve request).run
      (⟨.scratch hampered, medium⟩ : Site Backend σ)) := by
  have inner : Meets
      (fun value left => done value ⟨.scratch left.driver, left.medium⟩)
      (fun fault left => refused fault ⟨.scratch left.driver, left.medium⟩)
      ((Hampered.serve request).run
        (⟨hampered, medium⟩ : Site Hampered σ)) :=
    meets_hosting hampered.scratch
      (fun scratch => { hampered with scratch }) meets
  exact meets_hosting hampered Backend.scratch inner

theorem keeps_hampered {hampered : Hampered} {medium : Medium σ}
    {request : Request α}
    (keeps : Keeps (fun left => left = ⟨hampered.scratch, medium⟩)
      (Hampered.answer hampered.defect request)) :
    Keeps (fun left : Site Backend σ => left = ⟨.scratch hampered, medium⟩)
      (Driver.serve request) := by
  rintro _ rfl
  refine meets_hampered ((keeps.apply rfl).imp ?_ ?_)
  · rintro _ _ rfl
    exact rfl
  · rintro _ _ rfl
    exact rfl

theorem keeps_volume {volume : Volume} {medium : Medium σ}
    {request : Request α}
    (keeps : Keeps (fun left => left = ⟨volume, medium⟩)
      (Volume.serve request)) :
    Keeps (fun left : Site Backend σ => left = ⟨.volume volume, medium⟩)
      (Driver.serve request) := by
  rintro _ rfl
  refine meets_hosting volume Backend.volume ((keeps.apply rfl).imp ?_ ?_)
  · rintro _ _ rfl
    exact rfl
  · rintro _ _ rfl
    exact rfl

/-! ### Drivers of either type -/

theorem ensures_idle :
    Ensures (fun _ : Site Backend σ => True) (Driver.serve .unmount)
      (fun _ site => Idle site.driver) (fun _ site => Idle site.driver) := by
  rintro ⟨driver, medium⟩ _
  cases driver with
  | volume volume =>
    refine meets_hosting volume Backend.volume ?_
    exact (ensures_unmounted.apply trivial).imp
      (fun _ _ driver => congrArg Volume.mounted driver)
      (fun _ _ driver => congrArg Volume.mounted driver)
  | scratch hampered =>
    refine meets_hampered ?_
    exact (ensures_unused hampered.defect).apply trivial

/-- Drivers of both types are idle when they have been unmounted. -/
theorem retiring_idle : Retiring σ Idle where
  unmount := ensures_idle
  still files := by
    rintro ⟨driver, medium⟩ isIdle
    cases driver with
    | volume volume =>
      obtain ⟨mounted⟩ := volume
      cases isIdle
      exact keeps_volume (still_volume files medium)
    | scratch hampered =>
      refine keeps_hampered (keeps_answer ?_ files hampered.defect)
      exact fun files => still_scratch files isIdle
  stat path := by
    rintro ⟨driver, medium⟩
    cases driver with
    | volume volume => exact keeps_volume (keeps_stat_volume path _)
    | scratch hampered =>
      exact keeps_hampered
        (keeps_answer_stat (keeps_stat_scratch path _) hampered.defect)

end MountSpace.Proofs.NameSpaces
