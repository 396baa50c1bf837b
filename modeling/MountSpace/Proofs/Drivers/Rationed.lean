import MountSpace.Backend
import MountSpace.Proofs.Drivers.ScratchFiles
import MountSpace.Proofs.Drivers.VolumeFiles

/-!
# `MountSpace.Proofs.Drivers.Rationed`: drivers that are held back

The two types of drivers move files `Piecewise` (`backendPiecewise`), and so
does a driver that is held back at each transfer (`rationedPiecewise`).

A `Rationed` driver hands each read and each write to another driver with a
part of its buffer only. The part may be a different one at every request,
but it is not empty. It also tells a larger size than it knows, as it
likes.
-/

set_option autoImplicit false

namespace MountSpace.Proofs.Drivers

open Effects
open NameSpaces (run_serve_volume)

/-! ### Drivers of either type -/

/-- A property of volumes and one of scratch volumes without a defect. -/
def Either (onVolume : Volume → Prop) (onScratch : Scratch → Prop) :
    Backend → Prop
  | .volume volume => onVolume volume
  | .scratch hampered =>
    hampered.defect = none ∧ onScratch hampered.scratch

/-- What is seen of a driver of either type. -/
def backendOutlook : Outlook Backend where
  sound := Either volumeOutlook.sound scratchOutlook.sound
  contents
    | .volume volume => volumeContents volume
    | .scratch hampered => scratchContents hampered.scratch
  spent := Either volumeOutlook.spent scratchOutlook.spent
  surplus _ := 0

section

variable {σ α : Type} [BlockDevice σ] {request : Request α}
  {onVolume : Volume → Prop} {onScratch : Scratch → Prop}
  {volumeDone : α → Volume → Prop} {scratchDone : α → Scratch → Prop}

/-- Without a defect a scratch volume answers as it does by itself. -/
theorem run_serve_scratch (scratch : Scratch) (medium : Medium σ)
    (request : Request α) :
    (Driver.serve request).run
        (⟨.scratch ⟨scratch, none⟩, medium⟩ : Site Backend σ) =
      match (Scratch.serve request).run ⟨scratch, medium⟩ with
      | .done value left =>
        .done value ⟨.scratch ⟨left.driver, none⟩, left.medium⟩
      | .refused fault left =>
        .refused fault ⟨.scratch ⟨left.driver, none⟩, left.medium⟩
      | .stopped trap => .stopped trap := by
  have answer : (Hampered.answer none request : Action (Site Scratch σ) α)
      = Scratch.serve request := by
    cases request <;> rfl
  show (Site.hosting (⟨scratch, none⟩ : Hampered) Backend.scratch
    (Hampered.serve request)).run _ = _
  rw [Site.hosting, Action.run_within, Hampered.serve, Action.run_bind,
    Site.run_getDriver]
  simp only [answer, Site.hosting, Action.run_within]
  cases (Scratch.serve request).run ⟨scratch, medium⟩ <;> rfl

theorem leaves_either (volume : Leaves σ onVolume request volumeDone)
    (scratch : Leaves σ onScratch request scratchDone) :
    Leaves σ (Either onVolume onScratch) request
      (fun value => Either (volumeDone value) (scratchDone value)) := by
  rintro ⟨driver, medium⟩ holds
  cases driver with
  | volume inner =>
    have meets : Meets _ _ ((Volume.serve request).run ⟨inner, medium⟩) :=
      volume ⟨inner, medium⟩ holds
    rw [run_serve_volume]
    cases run : (Volume.serve request).run ⟨inner, medium⟩ with
    | done value left =>
      rw [run] at meets
      exact meets
    | refused fault left => trivial
    | stopped trap => trivial
  | scratch inner =>
    obtain ⟨inner, defect⟩ := inner
    obtain ⟨rfl, holds⟩ := holds
    have meets : Meets _ _ ((Scratch.serve request).run ⟨inner, medium⟩) :=
      scratch ⟨inner, medium⟩ holds
    rw [run_serve_scratch]
    cases run : (Scratch.serve request).run ⟨inner, medium⟩ with
    | done value left =>
      rw [run] at meets
      exact ⟨rfl, meets⟩
    | refused fault left => trivial
    | stopped trap => trivial

theorem answers_either (volume : Answers σ onVolume request volumeDone)
    (scratch : Answers σ onScratch request scratchDone) :
    Answers σ (Either onVolume onScratch) request
      (fun value => Either (volumeDone value) (scratchDone value)) := by
  rintro ⟨driver, medium⟩ holds
  cases driver with
  | volume inner =>
    obtain ⟨value, left, run, known⟩ := volume ⟨inner, medium⟩ holds
    refine ⟨value, ⟨.volume left.driver, left.medium⟩, ?_, known⟩
    rw [run_serve_volume, show (Volume.serve request).run _ = _ from run]
  | scratch inner =>
    obtain ⟨inner, defect⟩ := inner
    obtain ⟨rfl, holds⟩ := holds
    obtain ⟨value, left, run, known⟩ := scratch ⟨inner, medium⟩ holds
    refine ⟨value, ⟨.scratch ⟨left.driver, none⟩, left.medium⟩, ?_,
      rfl, known⟩
    rw [run_serve_scratch, show (Scratch.serve request).run _ = _ from run]

/-- What is known of an answer is known of drivers of either type. -/
theorem Either.and {fact : Prop} {driver : Backend}
    (either : Either (fun volume => fact ∧ onVolume volume)
      (fun scratch => fact ∧ onScratch scratch) driver) :
    fact ∧ Either onVolume onScratch driver := by
  cases driver with
  | volume inner => exact either
  | scratch inner => exact ⟨either.2.1, either.1, either.2.2⟩

end

/-- Drivers of both types move files piecewise. -/
def backendPiecewise (σ : Type) [BlockDevice σ] :
    Piecewise σ backendOutlook where
  writing file path sent :=
    Either ((volumePiecewise σ).writing file path sent)
      ((scratchPiecewise σ).writing file path sent)
  keeping path data :=
    Either ((volumePiecewise σ).keeping path data)
      ((scratchPiecewise σ).keeping path data)
  begun file path data surplus :=
    Either ((volumePiecewise σ).begun file path data surplus)
      ((scratchPiecewise σ).begun file path data surplus)
  reading file path data cursor :=
    Either ((volumePiecewise σ).reading file path data cursor)
      ((scratchPiecewise σ).reading file path data cursor)
  contents := by
    intro path data driver keeps
    cases driver with
    | volume inner => exact (volumePiecewise σ).contents keeps
    | scratch inner => exact (scratchPiecewise σ).contents keeps.2
  short := by
    intro path data driver keeps
    cases driver with
    | volume inner => exact (volumePiecewise σ).short keeps
    | scratch inner => exact (scratchPiecewise σ).short keeps.2
  openToWrite path permissions :=
    leaves_either ((volumePiecewise σ).openToWrite path permissions)
      ((scratchPiecewise σ).openToWrite path permissions)
  write more :=
    (leaves_either ((volumePiecewise σ).write more)
      ((scratchPiecewise σ).write more)).imp fun _ _ known => known.and
  closeWritten :=
    leaves_either (volumePiecewise σ).closeWritten
      (scratchPiecewise σ).closeWritten
  openToRead := by
    intro path data surplus permissions
    refine Completes.imp
      (answers_either ((volumePiecewise σ).openToRead permissions)
        ((scratchPiecewise σ).openToRead permissions)) ?_ fun _ _ known => known
    -- Neither type overstates a size, and only one runs out of numbers.
    rintro ⟨driver, medium⟩ ⟨keeps, more, same⟩
    cases driver with
    | volume inner => exact ⟨keeps, id, same⟩
    | scratch inner =>
      exact ⟨keeps.1, keeps.2, fun spent => more ⟨keeps.1, spent⟩, same⟩
  openSpent := by
    rintro path data permissions ⟨driver, medium⟩ keeps spent
    cases driver with
    | volume inner => exact spent.elim
    | scratch inner =>
      obtain ⟨inner, defect⟩ := inner
      obtain ⟨rfl, keeps⟩ := keeps
      have stops : (Scratch.serve (.openFile path .read permissions)).run
          (⟨inner, medium⟩ : Site Scratch σ) = .stopped .fileIdOverflow :=
        (scratchPiecewise σ).openSpent permissions _ keeps spent.2
      rw [run_serve_scratch, stops]
  stat :=
    (answers_either (volumePiecewise σ).stat (scratchPiecewise σ).stat).imp
      fun _ _ known => known.and
  read more := by
    refine (answers_either ((volumePiecewise σ).read more)
      ((scratchPiecewise σ).read more)).imp ?_
    rintro found driver known
    cases driver with
    | volume inner => exact known
    | scratch inner =>
      obtain ⟨sound, most, some, few, window, reads⟩ := known
      exact ⟨most, some, few, window, sound, reads⟩
  closeRead :=
    (answers_either (volumePiecewise σ).closeRead
      (scratchPiecewise σ).closeRead).imp fun _ _ _ => trivial

/-! ### Drivers that are held back -/

/-- A driver that is held back, with a count of the requests so far. -/
structure Rationed (δ : Type) where
  /-- The driver that does the work. -/
  inner : δ
  /-- How many bytes more than one it may move at a request, if there is
  such a limit. -/
  ration : Nat → Option Nat
  /-- By how much it overstates the size of a file at a request. -/
  excess : Nat → Nat
  /-- The number of the request that comes next. -/
  asked : Nat

namespace Rationed

variable {δ σ α : Type} [Driver δ σ]

/-- How many bytes of a buffer are handed on. -/
def portion (rationed : Rationed δ) (length : Nat) : Nat :=
  match rationed.ration rationed.asked with
  | some more => min length (more + 1)
  | none => length

/-- What is told of a path. -/
def told (rationed : Rationed δ) (found : Stat) : Stat :=
  if found.isFile then
    Stat.file (found.size + rationed.excess rationed.asked)
  else found

/-- Hands a request on to the driver that does the work. -/
def answer (rationed : Rationed δ) : Request α → Action (Site δ σ) α
  | .read file length position =>
    Driver.serve (.read file (rationed.portion length) position)
  | .write file data position =>
    Driver.serve
      (.write file (data.take (rationed.portion data.length)) position)
  | .stat path => do
    let found ← Driver.serve (.stat path)
    return rationed.told found
  | request => Driver.serve request

/-- Answers a request. -/
def serve (request : Request α) : Action (Site (Rationed δ) σ) α := do
  let rationed ← Site.getDriver
  Site.hosting rationed.inner
    (fun inner => { rationed with inner, asked := rationed.asked + 1 })
    (rationed.answer request)

instance : Driver (Rationed δ) σ where
  serve := serve

end Rationed

/-- What is seen of a driver that is held back. -/
def Outlook.rationed {δ : Type} (outlook : Outlook δ) :
    Outlook (Rationed δ) where
  sound rationed := outlook.sound rationed.inner
  contents rationed := outlook.contents rationed.inner
  spent rationed := outlook.spent rationed.inner
  -- A size is asked for after the request that opens the file.
  surplus rationed :=
    outlook.surplus rationed.inner + rationed.excess (rationed.asked + 1)

section

variable {δ σ α : Type} [Driver δ σ] {request : Request α}
  (before : δ → Prop) (done : α → δ → Prop)

omit [Driver δ σ] in
/-- No more than what there is, and not nothing if there is something. -/
theorem portion_le (rationed : Rationed δ) (length : Nat) :
    rationed.portion length ≤ length
      ∧ (length ≠ 0 → rationed.portion length ≠ 0) := by
  rw [Rationed.portion]
  split
  · omega
  · exact ⟨Nat.le_refl _, id⟩

/-- What is known of the driver that does the work. -/
theorem run_serve_rationed (rationed : Rationed δ) (medium : Medium σ)
    (request : Request α) :
    (Driver.serve request).run (⟨rationed, medium⟩ : Site (Rationed δ) σ) =
      match (rationed.answer request).run ⟨rationed.inner, medium⟩ with
      | .done value left => .done value
        ⟨{ rationed with inner := left.driver, asked := rationed.asked + 1 },
          left.medium⟩
      | .refused fault left => .refused fault
        ⟨{ rationed with inner := left.driver, asked := rationed.asked + 1 },
          left.medium⟩
      | .stopped trap => .stopped trap := by
  show (Rationed.serve request).run _ = _
  rw [Rationed.serve, Action.run_bind, Site.run_getDriver]
  simp only [Site.hosting, Action.run_within]
  cases (rationed.answer request).run ⟨rationed.inner, medium⟩ <;> rfl

theorem leaves_rationed
    (answers : ∀ rationed : Rationed δ, Ensures
      (fun site : Site δ σ => before site.driver) (rationed.answer request)
      (fun value site => done value site.driver) (fun _ _ => True)) :
    Leaves σ (fun rationed : Rationed δ => before rationed.inner) request
      (fun value rationed => done value rationed.inner) := by
  rintro ⟨rationed, medium⟩ holds
  have meets := answers rationed ⟨rationed.inner, medium⟩ holds
  rw [run_serve_rationed]
  cases run : (rationed.answer request).run ⟨rationed.inner, medium⟩ with
  | done value left =>
    rw [run] at meets
    exact meets
  | refused fault left => trivial
  | stopped trap => trivial

theorem answers_rationed
    (answers : ∀ rationed : Rationed δ, Completes
      (fun site : Site δ σ => before site.driver) (rationed.answer request)
      (fun value site => done value site.driver)) :
    Answers σ (fun rationed : Rationed δ => before rationed.inner) request
      (fun value rationed => done value rationed.inner) := by
  rintro ⟨rationed, medium⟩ holds
  obtain ⟨value, left, run, known⟩ :=
    answers rationed ⟨rationed.inner, medium⟩ holds
  refine ⟨value, ⟨{ rationed with
    inner := left.driver, asked := rationed.asked + 1 }, left.medium⟩, ?_,
    known⟩
  rw [run_serve_rationed, run]

end

/-- A driver that is held back moves files piecewise if the driver that does
the work does. -/
def rationedPiecewise {δ σ : Type} [Driver δ σ] {outlook : Outlook δ}
    (piecewise : Piecewise σ outlook) :
    Piecewise σ outlook.rationed where
  writing file path sent rationed :=
    piecewise.writing file path sent rationed.inner
  keeping path data rationed := piecewise.keeping path data rationed.inner
  begun file path data surplus rationed := ∃ less,
    piecewise.begun file path data less rationed.inner
      ∧ surplus = less + rationed.excess rationed.asked
  reading file path data cursor rationed :=
    piecewise.reading file path data cursor rationed.inner
  contents keeps := piecewise.contents keeps
  short keeps := piecewise.short keeps
  openToWrite path permissions :=
    leaves_rationed outlook.sound (fun file => piecewise.writing file path [])
      fun _ => piecewise.openToWrite path permissions
  write := by
    intro file path sent data more
    refine leaves_rationed (piecewise.writing file path sent)
      (fun count driver => count ≤ data.length
        ∧ piecewise.writing file path (sent ++ data.take count) driver)
      fun rationed => ?_
    obtain ⟨few, some⟩ := portion_le rationed data.length
    have length := List.length_take (i := rationed.portion data.length)
      (l := data)
    -- A part of something is something, as the other driver needs it.
    have part : data.take (rationed.portion data.length) ≠ [] := by
      have positive := some fun none => more (List.length_eq_zero_iff.mp none)
      intro none
      rw [none, List.length_nil] at length
      omega
    have wrote : Leaves σ (piecewise.writing file path sent)
        (.write file (data.take (rationed.portion data.length)) none)
        (fun count driver => count ≤ data.length
          ∧ piecewise.writing file path (sent ++ data.take count) driver) := by
      refine (piecewise.write part).imp ?_
      rintro count driver ⟨inside, writing⟩
      rw [List.take_take, Nat.min_eq_left (by omega)] at writing
      exact ⟨by omega, writing⟩
    exact wrote
  closeWritten {file path data} :=
    leaves_rationed (piecewise.writing file path data)
      (fun _ => piecewise.keeping path data)
      fun _ => piecewise.closeWritten
  openToRead := by
    rintro path data surplus permissions ⟨rationed, medium⟩
      ⟨keeps, more, rfl⟩
    obtain ⟨file, left, run, begun⟩ := piecewise.openToRead permissions
      ⟨rationed.inner, medium⟩ ⟨keeps, more, rfl⟩
    refine ⟨file, ⟨{ rationed with
      inner := left.driver, asked := rationed.asked + 1 }, left.medium⟩, ?_,
      _, begun, rfl⟩
    rw [run_serve_rationed,
      show (rationed.answer (.openFile path .read permissions)).run _ = _
        from run]
  openSpent := by
    rintro path data permissions ⟨rationed, medium⟩ keeps spent
    have stops := piecewise.openSpent permissions
      ⟨rationed.inner, medium⟩ keeps spent
    rw [run_serve_rationed,
      show (rationed.answer (.openFile path .read permissions)).run _ = _
        from stops]
  stat := by
    rintro file path data surplus ⟨rationed, medium⟩ ⟨less, begun, rfl⟩
    obtain ⟨_, left, run, rfl, reads⟩ :=
      piecewise.stat ⟨rationed.inner, medium⟩ begun
    refine ⟨.file (data.length + less + rationed.excess rationed.asked),
      ⟨{ rationed with inner := left.driver, asked := rationed.asked + 1 },
        left.medium⟩, ?_, by rw [Nat.add_assoc], reads⟩
    rw [run_serve_rationed, Rationed.answer, Action.run_bind, run]
    rfl
  read := by
    intro file path data cursor length more
    refine answers_rationed (piecewise.reading file path data cursor)
      (fun found driver => ∃ most, most ≠ 0 ∧ most ≤ length
        ∧ found = data.window cursor most
        ∧ piecewise.reading file path data (cursor + found.length) driver)
      fun rationed => ?_
    obtain ⟨few, some⟩ := portion_le rationed length
    have reads : Answers σ (piecewise.reading file path data cursor)
        (.read file (rationed.portion length) none)
        (fun found driver => ∃ most, most ≠ 0 ∧ most ≤ length
          ∧ found = data.window cursor most
          ∧ piecewise.reading file path data (cursor + found.length)
            driver) := by
      refine (piecewise.read (some more)).imp ?_
      rintro found driver ⟨most, positive, inside, known⟩
      exact ⟨most, positive, Nat.le_trans inside few, known⟩
    exact reads
  closeRead {file path data cursor} :=
    answers_rationed (piecewise.reading file path data cursor)
      (fun _ _ => True) fun _ => piecewise.closeRead

end MountSpace.Proofs.Drivers
