import MountSpace.Proofs.Volumes.PlannedFiles
import MountSpace.Proofs.Volumes.Rooted

/-!
# `MountSpace.Proofs.Volumes.OpenNumbers`: the numbers of open files

A mounted volume has its open files under numbers (`Numbers`). Opening a
file adds the next number, closing one takes its number away, and all other
requests about files leave the numbers as they are. Where a number leads to
is another matter, and of no interest here.

* `ensures_passing`, `ensures_opening`, `ensures_closing`: what these
  requests do to the numbers, done or refused, on any device.
-/

set_option autoImplicit false

namespace MountSpace.Proofs.Volumes

open Effects

section

variable {σ α : Type} {volume : Volume} {mounted next : Mounted}

/-- Open files are in order under the numbers `files`, and `nextId` comes
next. -/
structure Numbered (files : FileId → Prop) (nextId : FileId)
    (mounted : Mounted) : Prop where
  sorted : Keyed.Sorted mounted.handles
  files : ∀ file, file ∈ Keyed.keys mounted.handles ↔ files file
  nextId : mounted.nextId = nextId

/-- The volume is mounted, with these numbers. -/
def Numbers (files : FileId → Prop) (nextId : FileId) (volume : Volume) :
    Prop :=
  ∃ mounted, volume.mounted = some mounted ∧ Numbered files nextId mounted

/-- The same numbers are in use, and the same one comes next. -/
structure SameNumbers (mounted next : Mounted) : Prop where
  sorted : Keyed.Sorted mounted.handles → Keyed.Sorted next.handles
  files : ∀ file, file ∈ Keyed.keys next.handles
    ↔ file ∈ Keyed.keys mounted.handles
  nextId : next.nextId = mounted.nextId

theorem sameNumbers_root (root : Tree) :
    SameNumbers mounted { mounted with root } :=
  ⟨fun sorted => sorted, fun _ => Iff.rfl, rfl⟩

/-- An open file goes on elsewhere. -/
theorem SameNumbers.setHandle (same : SameNumbers mounted next)
    {file : FileId} {handle : Handle}
    (opened : mounted.handle file = .ok handle) (last : Handle) :
    SameNumbers mounted (next.setHandle file last) := by
  refine ⟨fun sorted => (same.sorted sorted).insert file last,
    fun other => ?_, same.nextId⟩
  have isOpen : file ∈ Keyed.keys mounted.handles :=
    List.mem_map_of_mem (f := Prod.fst) (mem_of_handle opened)
  rw [Mounted.setHandle, Keyed.mem_keys_insert, same.files]
  constructor
  · rintro (rfl | member)
    · exact isOpen
    · exact member
  · exact .inr

theorem sameNumbers_rename {source target : List String} {plan : Plan Unit}
    (made : mounted.rename source target = .ok plan) :
    SameNumbers mounted plan.next := by
  cases rename_eq_ok made with
  | stay => exact sameNumbers_root mounted.root
  | move =>
    have keys := keys_moveHandles source target mounted.handles
    refine ⟨fun sorted => ?_, fun file => ?_, rfl⟩
    · exact (congrArg (List.Pairwise (· < ·)) keys).mpr sorted
    · exact (congrArg (file ∈ ·) keys).to_iff

/-- Requests that open no file and close none leave the numbers alone. -/
theorem sameNumbers_planned {request : Request α} {plan : Plan α}
    (passing : Passing request)
    (made : planned ⟨some mounted⟩ request = .ok plan) :
    SameNumbers mounted plan.next := by
  have self : SameNumbers mounted mounted := sameNumbers_root mounted.root
  cases request with
  | mount | unmount | format | openFile | close => exact passing.elim
  | read file length position =>
    obtain ⟨handle, data, start, opened, _, _, rfl⟩ := read_eq_ok made
    exact self.setHandle opened _
  | write file data position =>
    obtain ⟨_, known, made⟩ := bind_eq_ok_iff.mp made
    cases known
    obtain ⟨handle, writable, made⟩ := bind_eq_ok_iff.mp made
    have opened := writableHandle_eq_ok writable
    split at made
    · cases made
      exact self.setHandle opened _
    · obtain ⟨⟨old, start⟩, _, made⟩ := bind_eq_ok_iff.mp made
      obtain ⟨root, _, made⟩ := bind_eq_ok_iff.mp made
      cases made
      exact (sameNumbers_root root).setHandle opened _
  | stat path =>
    obtain ⟨path, _, made⟩ := bind_eq_ok_iff.mp made
    change mounted.stat path = .ok plan at made
    obtain ⟨tree, _, made⟩ := bind_eq_ok_iff.mp made
    cases made
    exact self
  | makeDirectory path =>
    obtain ⟨path, _, made⟩ := bind_eq_ok_iff.mp made
    obtain ⟨_, root, _, rfl⟩ := makeDirectory_eq_ok made
    exact sameNumbers_root root
  | removeDirectory path =>
    obtain ⟨path, _, made⟩ := bind_eq_ok_iff.mp made
    split at made
    · cases made
    · obtain ⟨_, root, _, rfl⟩ := removeDirectory_eq_ok made
      exact sameNumbers_root root
  | list path =>
    obtain ⟨path, _, made⟩ := bind_eq_ok_iff.mp made
    change mounted.list path = .ok plan at made
    obtain ⟨tree, _, made⟩ := bind_eq_ok_iff.mp made
    cases tree with
    | file data => cases made
    | directory entries =>
      cases made
      exact self
  | rename source target =>
    obtain ⟨source, _, made⟩ := bind_eq_ok_iff.mp made
    obtain ⟨target, _, made⟩ := bind_eq_ok_iff.mp made
    split at made
    · cases made
    · exact sameNumbers_rename made
  | unlink path =>
    obtain ⟨path, _, made⟩ := bind_eq_ok_iff.mp made
    obtain ⟨_, _, root, _, rfl⟩ := unlink_eq_ok made
    exact sameNumbers_root root

theorem SameNumbers.numbered {files : FileId → Prop} {nextId : FileId}
    (same : SameNumbers mounted next)
    (numbered : Numbered files nextId mounted) :
    Numbered files nextId next :=
  ⟨same.sorted numbered.sorted,
    fun file => (same.files file).trans (numbered.files file),
    same.nextId.trans numbered.nextId⟩

theorem numbered_openFile {files : FileId → Prop} {nextId : FileId}
    {path : List String} {flags : OpenFlags} {plan : Plan FileId}
    (numbered : Numbered files nextId mounted)
    (made : mounted.openFile path flags = .ok plan) :
    plan.value = nextId ∧ Numbered
      (fun file => file = nextId ∨ files file) (nextId + 1) plan.next := by
  obtain ⟨value, next, handles, _⟩ := openFile_eq_ok made
  rw [numbered.nextId] at value next handles
  refine ⟨value, ?_, fun file => ?_, next⟩
  · rw [handles]
    exact numbered.sorted.insert _ _
  · rw [handles, Keyed.mem_keys_insert, numbered.files]

theorem numbered_close {files : FileId → Prop} {nextId file : FileId}
    {plan : Plan Unit} (numbered : Numbered files nextId mounted)
    (made : mounted.close file = .ok plan) :
    Numbered (fun other => files other ∧ other ≠ file) nextId plan.next := by
  obtain ⟨handle, _, made⟩ := bind_eq_ok_iff.mp made
  cases made
  refine ⟨numbered.sorted.erase file, fun other => ?_, numbered.nextId⟩
  show other ∈ Keyed.keys (Keyed.erase mounted.handles file) ↔ _
  rw [Keyed.mem_keys_erase numbered.sorted, numbered.files]

/-- A file that cannot be closed is not open. -/
theorem numbered_close_error {files : FileId → Prop} {nextId file : FileId}
    {fault : Fault} (numbered : Numbered files nextId mounted)
    (refused : mounted.close file = .error fault) :
    Numbered (fun other => files other ∧ other ≠ file) nextId mounted := by
  have closed : file ∉ Keyed.keys mounted.handles := by
    rw [← Keyed.get?_eq_none_iff]
    cases found : Keyed.get? mounted.handles file with
    | none => rfl
    | some handle =>
      rw [Mounted.close, Mounted.handle, found] at refused
      cases refused
  -- So to leave it out changes nothing.
  refine ⟨numbered.sorted, fun other => ?_, numbered.nextId⟩
  rw [numbered.files] at closed ⊢
  constructor
  · intro isOpen
    refine ⟨isOpen, ?_⟩
    rintro rfl
    exact closed isOpen
  · exact And.left

/-! ### On any device -/

variable [BlockDevice σ] {files : FileId → Prop} {nextId : FileId}

/-- Requests that open no file and close none leave the numbers alone. -/
theorem keeps_numbers {request : Request α} (passing : Passing request) :
    Keeps (fun site : Site Volume σ => Numbers files nextId site.driver)
      (Volume.serve request) := by
  rintro site ⟨mounted, isMounted, numbered⟩
  have driver : site.driver = ⟨some mounted⟩ := congrArg Volume.mk isMounted
  refine ((ensures_planned passing.aboutFiles).apply driver).imp ?_
    (fun _ _ same => ⟨mounted, congrArg Volume.mounted same, numbered⟩)
  rintro value left ⟨plan, made, _, next⟩
  exact ⟨plan.next, congrArg Volume.mounted next,
    (sameNumbers_planned passing made).numbered numbered⟩

theorem ensures_openFile_numbers (path : String) (flags : OpenFlags)
    (permissions : UInt32) :
    Ensures (fun site : Site Volume σ => Numbers files nextId site.driver)
      (Volume.serve (.openFile path flags permissions))
      (fun file site => file = nextId ∧ Numbers
        (fun other => other = nextId ∨ files other) (nextId + 1) site.driver)
      (fun _ site => Numbers files nextId site.driver) := by
  rintro site ⟨mounted, isMounted, numbered⟩
  have driver : site.driver = ⟨some mounted⟩ := congrArg Volume.mk isMounted
  have about : AboutFiles (.openFile path flags permissions) := trivial
  refine ((ensures_planned about).apply driver).imp ?_
    (fun _ _ same => ⟨mounted, congrArg Volume.mounted same, numbered⟩)
  rintro value left ⟨plan, made, rfl, next⟩
  rw [planned] at made
  split at made
  · cases made
  · obtain ⟨path, _, made⟩ := bind_eq_ok_iff.mp made
    obtain ⟨value, numbered⟩ := numbered_openFile numbered made
    exact ⟨value, plan.next, congrArg Volume.mounted next, numbered⟩

/-- Done or refused, the file is not open afterwards: no device is asked
to close a file. -/
theorem ensures_close_numbers (file : FileId) :
    Ensures (fun site : Site Volume σ => Numbers files nextId site.driver)
      (Volume.serve (.close file))
      (fun _ site => Numbers (fun other => files other ∧ other ≠ file)
        nextId site.driver)
      (fun _ site => Numbers (fun other => files other ∧ other ≠ file)
        nextId site.driver) := by
  rintro ⟨⟨_⟩, medium⟩ ⟨mounted, rfl, numbered⟩
  show Meets _ _ ((Volume.onMounted fun mounted => mounted.close file).run _)
  rw [run_onMounted]
  show Meets _ _
    ((Action.ofExcept (mounted.close file) >>= Volume.perform).run _)
  cases made : mounted.close file with
  | error fault => exact ⟨mounted, rfl, numbered_close_error numbered made⟩
  | ok plan =>
    have closed := numbered_close numbered made
    obtain ⟨handle, _, made⟩ := bind_eq_ok_iff.mp made
    cases made
    exact ⟨_, rfl, closed⟩

/-- When a volume has been mounted no file is open. -/
theorem ensures_mount_numbers :
    Ensures (fun _ : Site Volume σ => True) (Volume.serve .mount)
      (fun _ site => Numbers (fun _ => False) 0 site.driver)
      (fun _ _ => True) := by
  refine ensures_mounted.imp (fun _ start => start) ?_
    (fun _ _ known => known)
  rintro _ site ⟨root, geometry, _, driver⟩
  refine ⟨_, congrArg Volume.mounted driver, List.Pairwise.nil,
    fun file => ?_, rfl⟩
  simp [Keyed.keys]

end

end MountSpace.Proofs.Volumes
