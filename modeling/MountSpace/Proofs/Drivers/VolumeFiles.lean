import MountSpace.Proofs.Drivers.Piecewise
import MountSpace.Proofs.NameSpaces.Volumes
import MountSpace.Proofs.Volumes.Splices

/-!
# `MountSpace.Proofs.Drivers.VolumeFiles`: whole files on volumes

A volume moves files `Piecewise` (`volumePiecewise`). It writes all bytes of
a write or none, and answers all other requests about an open file from
memory.
-/

set_option autoImplicit false

namespace MountSpace.Proofs.Drivers

open Effects Trees Volumes
open NameSpaces (treeAt run_stat)

/-! ### States of a file -/

/-- The contents of the file at a path of a volume, if that is mounted and
there is one. -/
def volumeContents (volume : Volume) (path : String) : Option Bytes := do
  let mounted ← volume.mounted
  match treeAt mounted.root path with
  | .ok (.file data) => some data
  | _ => none

/-- What is seen of a volume. Its numbers for open files start again when
they have been given out. -/
def volumeOutlook : Outlook Volume where
  sound _ := True
  contents := volumeContents
  spent _ := False
  surplus _ := 0

/-- A file with these contents is at the names of a path. -/
structure FileOf (path : String) (data : Bytes) (mounted : Mounted)
    (names : List String) : Prop where
  spelled : Volume.names path = .ok names
  found : mounted.root.lookup names = .ok (.file data)
  short : data.length < sizeLimit

/-- A mounted volume has a file with these contents. -/
def VolumeKeeps (path : String) (data : Bytes) (volume : Volume) : Prop :=
  ∃ mounted names, volume = ⟨some mounted⟩
    ∧ FileOf path data mounted names

/-- And the file is open under a number. -/
def VolumeOpens (flags : OpenFlags) (file : FileId) (path : String)
    (data : Bytes) (cursor : Nat) (volume : Volume) : Prop :=
  ∃ mounted names, volume = ⟨some mounted⟩
    ∧ FileOf path data mounted names
    ∧ Keyed.get? mounted.handles file = some ⟨names, flags, cursor⟩

section

variable {mounted : Mounted} {path : String} {names : List String}
  {data : Bytes} {file : FileId} {flags : OpenFlags}

/-- The open files do not matter for what is in the tree, nor does the number
of the next one. -/
theorem FileOf.of_handles (isFile : FileOf path data mounted names)
    (handles : Keyed FileId Handle) (nextId : FileId) :
    FileOf path data { mounted with handles, nextId } names :=
  ⟨isFile.spelled, isFile.found, isFile.short⟩

theorem FileOf.treeAt_eq (isFile : FileOf path data mounted names) :
    treeAt mounted.root path = .ok (.file data) := by
  rw [treeAt, isFile.spelled]
  exact isFile.found

theorem volumeContents_of_keeps {volume : Volume}
    (keeps : VolumeKeeps path data volume) :
    volumeContents volume path = some data := by
  obtain ⟨mounted, names, rfl, isFile⟩ := keeps
  simp only [volumeContents, Option.bind_eq_bind, Option.bind_some,
    isFile.treeAt_eq]

/-- A file that is opened to be emptied is empty, if it was there or not. -/
theorem lookup_of_truncates {plan : Plan FileId}
    (truncates : flags.truncates = true)
    (made : mounted.openFile names flags = .ok plan) :
    plan.next.root.lookup names = .ok (.file []) := by
  rw [Mounted.openFile] at made
  split at made
  · cases made
  · next old found =>
    split at made
    · cases made
    · split at made
      · obtain ⟨root, put, made⟩ := bind_eq_ok_iff.mp made
        cases made
        exact lookup_put put
      · next kept =>
        have empty : old = [] := by simpa [truncates] using kept
        cases made
        rw [empty] at found
        exact found
  · split at made
    · obtain ⟨root, put, made⟩ := bind_eq_ok_iff.mp made
      cases made
      exact lookup_put put
    · cases made
  · cases made

end

/-! ### Requests -/

section

variable {σ : Type} [BlockDevice σ] {mounted : Mounted} {path : String}
  {names : List String} {data : Bytes} {file : FileId}
  {flags : OpenFlags} {cursor : Nat}

/-- A file that is there is opened to be read without asking a device. -/
theorem run_openFile_read (isFile : FileOf path data mounted names)
    (permissions : UInt32) (medium : Medium σ) :
    (Volume.serve (.openFile path .read permissions)).run
        ⟨⟨some mounted⟩, medium⟩
      = .done mounted.nextId
          ⟨⟨some (mounted.opening names .read)⟩, medium⟩ := by
  have opens : mounted.openFile names .read
      = .ok ((mounted.opening names .read).keeping mounted.nextId) := by
    rw [Mounted.openFile, isFile.found]
    rfl
  -- The flags are not empty, so the path is all that could be refused.
  show (Action.ofExcept (Volume.names path) >>= fun path =>
    Volume.onMounted fun mounted => mounted.openFile path .read).run _ = _
  rw [isFile.spelled]
  exact run_onMounted_of_keeping opens medium

/-! ### Writing -/

theorem leaves_openToWrite_volume (path : String) (permissions : UInt32) :
    Leaves σ volumeOutlook.sound (.openFile path wholeFlags permissions)
      (fun file => VolumeOpens wholeFlags file path [] 0) := by
  refine ensures_of_done fun site value after _ run => ?_
  obtain ⟨plan, made, run⟩ := planned_of_done run trivial
  obtain ⟨rfl, now, _⟩ := performed_of_done run
  have some : ¬ wholeFlags.isEmpty = true := by decide
  rw [planned, if_neg some] at made
  obtain ⟨names, spelled, made⟩ := bind_eq_ok_iff.mp made
  obtain ⟨mounted, _, made⟩ := bind_eq_ok_iff.mp made
  obtain ⟨number, _, handles, _⟩ := openFile_eq_ok made
  refine ⟨plan.next, names, now, ⟨spelled, ?_, by decide⟩, ?_⟩
  · exact lookup_of_truncates truncates_wholeFlags made
  · rw [handles, number]
    exact Keyed.get?_insert_self ..

theorem leaves_write_volume {sent : Bytes} (more : data ≠ []) :
    Leaves σ (VolumeOpens wholeFlags file path sent sent.length)
      (.write file data none)
      (fun count volume => count ≤ data.length
        ∧ VolumeOpens wholeFlags file path (sent ++ data.take count)
          (sent ++ data.take count).length volume) := by
  refine ensures_of_done ?_
  rintro site count after ⟨mounted, names, known, isFile, opened⟩ run
  have isOpen : OpenToWrite mounted file ⟨names, wholeFlags, sent.length⟩
      sent := ⟨opened, writable_wholeFlags, isFile.found⟩
  obtain ⟨rfl, root, makes, now, _⟩ := makes_of_done known isOpen more run
  -- The flags do not append, so the bytes go where the last ones ended.
  have start : writeStart ⟨names, wholeFlags, sent.length⟩ none sent
      = sent.length := by
    rw [writeStart, appends_wholeFlags]
    rfl
  have written : sent.splice sent.length data = sent ++ data := by
    simp [Bytes.splice, Bytes.zeros]
  rw [start] at makes now
  -- The image of the tree has a length that the superblock can tell.
  have short : (sent ++ data).length < sizeLimit := by
    have ends := end_lt_of_put makes.put
    have image := makes.short
    have limits : fieldLimit ≤ sizeLimit := by decide
    rw [List.length_append]
    omega
  have put := makes.put
  rw [written] at put
  rw [List.take_length, List.length_append]
  exact ⟨Nat.le_refl _, _, names, now,
    ⟨isFile.spelled, lookup_put put, short⟩, Keyed.get?_insert_self ..⟩

/-! ### Reading -/

/-- A file is open to be read, and has been read up to a place in it. -/
def VolumeReads (file : FileId) (path : String) (data : Bytes)
    (cursor : Nat) (volume : Volume) : Prop :=
  VolumeOpens .read file path data cursor volume ∧ cursor ≤ data.length

theorem answers_openToRead_volume (permissions : UInt32) :
    Answers σ (VolumeKeeps path data) (.openFile path .read permissions)
      (fun file => VolumeReads file path data 0) := by
  rintro ⟨driver, medium⟩ ⟨mounted, names, rfl, isFile⟩
  exact ⟨_, _, run_openFile_read isFile permissions medium,
    ⟨_, names, rfl, isFile.of_handles _ _, Keyed.get?_insert_self ..⟩,
    Nat.zero_le _⟩

/-- The size that is told is that of the file. -/
theorem answers_stat_volume :
    Answers σ (VolumeReads file path data cursor) (.stat path)
      (fun found volume => found = .file data.length
        ∧ VolumeReads file path data cursor volume) := by
  rintro ⟨driver, medium⟩ ⟨⟨mounted, names, rfl, isFile, opened⟩, inside⟩
  have run := run_stat mounted medium path
  rw [isFile.treeAt_eq] at run
  exact ⟨_, _, run, rfl, ⟨mounted, names, rfl, isFile, opened⟩, inside⟩

/-- As many bytes are read as are asked for, and as there are. -/
theorem answers_read_volume {length : Nat} (more : length ≠ 0) :
    Answers σ (VolumeReads file path data cursor) (.read file length none)
      (fun found volume => ∃ most, most ≠ 0 ∧ most ≤ length
        ∧ found = data.window cursor most
        ∧ VolumeReads file path data (cursor + found.length) volume) := by
  rintro ⟨driver, medium⟩ ⟨⟨mounted, names, rfl, isFile, opened⟩, inside⟩
  have start : readStart ⟨names, .read, cursor⟩ none data = cursor :=
    Nat.min_eq_left inside
  have run := run_read (handle_of_get? opened) readable_read isFile.found
    medium length none
  rw [start] at run
  refine ⟨_, _, run, length, more, Nat.le_refl _, rfl,
    ⟨_, names, rfl, isFile.of_handles _ _, Keyed.get?_insert_self ..⟩, ?_⟩
  rw [Bytes.window, List.length_take, List.length_drop]
  omega

/-! ### Closing -/

/-- An open file is closed whatever it was opened for. -/
theorem answers_close_volume :
    Answers σ (VolumeOpens flags file path data cursor) (.close file)
      (fun _ => VolumeKeeps path data) := by
  rintro ⟨driver, medium⟩ ⟨mounted, names, rfl, isFile, opened⟩
  exact ⟨_, _, run_close_of_open (handle_of_get? opened) medium, _, names, rfl,
    isFile.of_handles _ _⟩

theorem answers_closeRead_volume :
    Answers σ (VolumeReads file path data cursor) (.close file)
      (fun _ _ => True) := by
  rintro site ⟨opens, _⟩
  exact (answers_close_volume.imp fun _ _ _ => trivial) site opens

/-- A volume moves files piecewise. -/
def volumePiecewise (σ : Type) [BlockDevice σ] :
    Piecewise σ volumeOutlook where
  writing file path sent := VolumeOpens wholeFlags file path sent sent.length
  keeping := VolumeKeeps
  begun file path data surplus volume :=
    surplus = 0 ∧ VolumeReads file path data 0 volume
  reading := VolumeReads
  contents := volumeContents_of_keeps
  short := by
    rintro path data volume ⟨mounted, names, rfl, isFile⟩
    exact isFile.short
  openToWrite := leaves_openToWrite_volume
  write := leaves_write_volume
  closeWritten := answers_close_volume.leaves
  openToRead := by
    rintro path data surplus permissions site ⟨keeps, _, rfl⟩
    obtain ⟨file, left, run, reads⟩ :=
      answers_openToRead_volume permissions site keeps
    exact ⟨file, left, run, rfl, reads⟩
  openSpent _ _ _ spent := spent.elim
  stat := by
    rintro file path data surplus site ⟨rfl, reads⟩
    exact answers_stat_volume site reads
  read := answers_read_volume
  closeRead := answers_closeRead_volume

end

end MountSpace.Proofs.Drivers
