import MountSpace.Proofs.Drivers.Piecewise
import MountSpace.Scratch

/-!
# `MountSpace.Proofs.Drivers.ScratchFiles`: whole files on scratch volumes

A scratch volume moves files `Piecewise` (`scratchPiecewise`). It may have
been told to refuse to close files, but then no file that it has been given
to write is ever closed.
-/

set_option autoImplicit false

namespace MountSpace.Proofs.Drivers

open Effects

/-! ### States of a file -/

/-- The contents of the file in the table under a path. -/
def scratchContents (scratch : Scratch) (path : String) : Option Bytes :=
  match scratch.entry? path with
  | some (.file data) => some (Packed.toBytes data)
  | _ => none

/-- What is seen of a scratch volume. -/
def scratchOutlook : Outlook Scratch where
  sound _ := True
  contents := scratchContents
  spent scratch := scratch.nextId.toNat + 1 = fieldLimit
  surplus _ := 0

/-- A mounted scratch volume has a file with these contents. -/
structure ScratchHas (path : String) (data : Bytes) (scratch : Scratch) :
    Prop where
  mounted : scratch.mounted = true
  isFile : ∃ packed, scratch.entry? path = some (.file packed)
    ∧ Packed.toBytes packed = data
  short : data.length < sizeLimit

/-- And it can be closed again when it has been opened. -/
structure ScratchKeeps (path : String) (data : Bytes) (scratch : Scratch) :
    Prop where
  has : ScratchHas path data scratch
  closes : scratch.refusesClose = false

/-- The file is open under a number. -/
structure ScratchOpens (flags : OpenFlags) (file : FileId) (path : String)
    (data : Bytes) (cursor : Nat) (scratch : Scratch) : Prop where
  has : ScratchHas path data scratch
  opened : Keyed.get? scratch.handles file = some ⟨path, flags, cursor⟩

section

variable {σ : Type} [BlockDevice σ] {scratch : Scratch} {path : String}
  {data : Bytes} {file : FileId} {flags : OpenFlags} {cursor : Nat}

theorem scratchContents_of_has (has : ScratchHas path data scratch) :
    scratchContents scratch path = some data := by
  obtain ⟨packed, found, rfl⟩ := has.isFile
  simp only [scratchContents, found]

/-- The open files do not matter for what is in the table, nor does the
number of the next one. -/
theorem ScratchHas.of_handles (has : ScratchHas path data scratch)
    (handles : Keyed FileId Scratch.Handle) (nextId : FileId) :
    ScratchHas path data { scratch with handles, nextId } :=
  ⟨has.mounted, has.isFile, has.short⟩

theorem opens_setHandle (has : ScratchHas path data scratch) :
    ScratchOpens flags file path data cursor
      (scratch.setHandle file ⟨path, flags, cursor⟩) :=
  ⟨has.of_handles _ _, Keyed.get?_insert_self ..⟩

theorem has_putEntry (mounted : scratch.mounted = true) (packed : Packed)
    (short : (Packed.toBytes packed).length < sizeLimit) :
    ScratchHas path (Packed.toBytes packed)
      (scratch.putEntry path (.file packed)) :=
  ⟨mounted, ⟨packed, Keyed.get?_insert_self .., rfl⟩, short⟩

theorem ScratchOpens.handle_eq
    (opens : ScratchOpens flags file path data cursor scratch) :
    scratch.handle file = .ok ⟨path, flags, cursor⟩ := by
  rw [Scratch.handle, opens.opened]

/-! ### Writing -/

omit [BlockDevice σ] in
theorem getMounted_eq_done {site after : Site Scratch σ} {found : Scratch}
    (run : Scratch.getMounted.run site = .done found after) :
    site.driver.mounted = true ∧ site.driver = found ∧ site = after := by
  rw [Scratch.getMounted, Action.run_bind, Site.run_getDriver] at run
  simp only at run
  split at run
  · next mounted =>
    cases run
    exact ⟨mounted, rfl, rfl⟩
  · nomatch run

omit [BlockDevice σ] in
theorem run_getMounted_of {site : Site Scratch σ}
    (mounted : site.driver.mounted = true) :
    Scratch.getMounted.run site = .done site.driver site := by
  rw [Scratch.getMounted, Action.run_bind, Site.run_getDriver]
  simp only [if_pos mounted, Action.run_pure]

/-- A file that is opened to be emptied is empty, if it was there or not. -/
theorem has_of_prepare {next : Scratch} (truncates : flags.truncates = true)
    (mounted : scratch.mounted = true)
    (made : scratch.prepare path flags = .ok next) :
    ScratchHas path [] next := by
  have empty : ScratchHas path [] (scratch.putEntry path (.file .empty)) :=
    has_putEntry mounted .empty (by decide)
  rw [Scratch.prepare] at made
  split at made
  · nomatch made
  · split at made
    · nomatch made
    · cases made
      exact empty
  · split at made
    · obtain ⟨_, _, made⟩ := bind_eq_ok_iff.mp made
      cases made
      exact empty
    · nomatch made

theorem leaves_openToWrite_scratch (path : String) (permissions : UInt32) :
    Leaves σ scratchOutlook.sound (.openFile path wholeFlags permissions)
      (fun file => ScratchOpens wholeFlags file path [] 0) := by
  refine ensures_of_done fun site number after _ run => ?_
  obtain ⟨_, _, got, opening⟩ := run_bind_eq_done.mp run
  obtain ⟨mounted, rfl, rfl⟩ := getMounted_eq_done got
  obtain ⟨next, _, made, setting⟩ := run_bind_eq_done.mp opening
  obtain ⟨prepared, rfl⟩ := run_ofExcept_eq_done made
  simp only at setting
  split at setting
  · cases setting
    have empty : ScratchHas path [] next :=
      has_of_prepare truncates_wholeFlags mounted prepared
    exact ⟨empty.of_handles _ _, Keyed.get?_insert_self ..⟩
  · nomatch setting

/-- What is written goes where the last bytes ended. -/
theorem leaves_write_scratch {sent : Bytes} :
    Leaves σ (ScratchOpens wholeFlags file path sent sent.length)
      (.write file data none)
      (fun count scratch => count ≤ data.length
        ∧ ScratchOpens wholeFlags file path (sent ++ data.take count)
          (sent ++ data.take count).length scratch) := by
  refine ensures_of_done ?_
  rintro site count after opens run
  obtain ⟨packed, found, rfl⟩ := opens.has.isFile
  obtain ⟨_, _, got, run⟩ := run_bind_eq_done.mp run
  obtain ⟨mounted, rfl, rfl⟩ := getMounted_eq_done got
  have contents : site.driver.contents ⟨path, wholeFlags,
      (Packed.toBytes packed).length⟩ = .ok packed := by
    rw [Scratch.contents, found]
  simp only [opens.handle_eq, Action.run_bind, Action.run_ofExcept_ok,
    writable_wholeFlags, contents, appends_wholeFlags, Site.run_setDriver,
    Bool.not_true, Bool.false_eq_true, if_false, Option.getD_none] at run
  -- Whatever the device tells, the bytes are written if that is done at all.
  split at run
  · nomatch run
  obtain ⟨room, _, _, run⟩ := run_bind_eq_done.mp run
  split at run
  · nomatch run
  obtain ⟨_, _, reserved, run⟩ := run_bind_eq_done.mp run
  obtain ⟨fits, rfl⟩ := run_reserve_eq_done reserved
  cases run
  have written : Packed.toBytes
      (packed.splice (Packed.toBytes packed).length data)
        = Packed.toBytes packed ++ data := by
    rw [Packed.toBytes_splice]
    simp [Bytes.splice, Bytes.zeros]
  rw [← List.length_append, ← written] at fits
  rw [List.take_length, List.length_append, ← written]
  refine ⟨Nat.le_refl _, opens_setHandle (has_putEntry ?_ _ fits)⟩
  exact mounted

/-! ### Reading -/

/-- The last number of all is never given out. -/
theorem run_openToRead_scratch {site : Site Scratch σ}
    (permissions : UInt32) (has : ScratchHas path data site.driver) :
    (Scratch.serve (.openFile path .read permissions)).run site
      = if site.driver.nextId.toNat + 1 < fieldLimit
        then .done site.driver.nextId
          { site with driver := { site.driver.setHandle site.driver.nextId
              ⟨path, .read, 0⟩ with nextId := site.driver.nextId + 1 } }
        else .stopped .fileIdOverflow := by
  obtain ⟨packed, found, rfl⟩ := has.isFile
  have prepared : site.driver.prepare path .read = .ok site.driver := by
    rw [Scratch.prepare, found]
    rfl
  show (Scratch.openFile path .read).run site = _
  rw [Scratch.openFile, Action.run_bind, run_getMounted_of has.mounted]
  simp only [Action.run_bind, prepared, Action.run_ofExcept_ok]
  split <;> rfl

/-- While it is not the turn of the last number, a file is opened. -/
theorem answers_openToRead_scratch (permissions : UInt32) :
    Answers σ
      (fun scratch => ScratchKeeps path data scratch
        ∧ ¬ scratchOutlook.spent scratch)
      (.openFile path .read permissions)
      (fun file scratch => ScratchOpens .read file path data 0 scratch
        ∧ scratch.refusesClose = false) := by
  rintro site ⟨keeps, more⟩
  have room : site.driver.nextId.toNat + 1 < fieldLimit := by
    have last := site.driver.nextId.toNat_lt
    change site.driver.nextId.toNat + 1 ≠ fieldLimit at more
    simp only [fieldLimit] at *
    omega
  have run := run_openToRead_scratch permissions keeps.has
  rw [if_pos room] at run
  exact ⟨_, _, run,
    ⟨keeps.has.of_handles _ _, Keyed.get?_insert_self ..⟩, keeps.closes⟩

theorem run_stat_scratch {site : Site Scratch σ}
    (has : ScratchHas path data site.driver) :
    (Scratch.serve (.stat path)).run site
      = .done (Stat.file data.length) site := by
  obtain ⟨packed, found, rfl⟩ := has.isFile
  have told : site.driver.stat path
      = .ok (Stat.file (Packed.toBytes packed).length) := by
    rw [Scratch.stat, found]
    rfl
  show (Scratch.asking _).run site = _
  rw [Scratch.asking, Action.run_bind, run_getMounted_of has.mounted]
  simp only [told, Action.run_ofExcept_ok]

theorem run_read_scratch {site : Site Scratch σ} (length : Nat)
    (inside : cursor ≤ data.length)
    (opens : ScratchOpens .read file path data cursor site.driver) :
    (Scratch.serve (.read file length none)).run site
      = .done (data.window cursor length)
          ⟨site.driver.setHandle file ⟨path, .read,
            cursor + (data.window cursor length).length⟩, site.medium⟩ := by
  obtain ⟨packed, found, rfl⟩ := opens.has.isFile
  have contents : site.driver.contents ⟨path, .read, cursor⟩
      = .ok packed := by
    rw [Scratch.contents, found]
  have start : min cursor packed.size = cursor := Nat.min_eq_left inside
  have read : site.driver.read file length none
      = .ok ((Packed.toBytes packed).window cursor length,
          site.driver.setHandle file ⟨path, .read, cursor
            + ((Packed.toBytes packed).window cursor length).length⟩) := by
    simp only [Scratch.read, opens.handle_eq, ok_bind, readable_read,
      contents, Option.getD_none, start, Packed.window_eq]
    rfl
  show (Scratch.getMounted >>= _).run site = _
  rw [Action.run_bind, run_getMounted_of opens.has.mounted]
  simp only [Action.run_bind, read, Action.run_ofExcept_ok]
  rfl

/-! ### Closing -/

theorem run_close_scratch {site : Site Scratch σ}
    (opens : ScratchOpens flags file path data cursor site.driver) :
    (Scratch.serve (.close file)).run site
      = if site.driver.refusesClose
        then .refused .ioError { site with driver := { site.driver with
          handles := Keyed.erase site.driver.handles file } }
        else .done () { site with driver := { site.driver with
          handles := Keyed.erase site.driver.handles file } } := by
  show (Scratch.close file).run site = _
  rw [Scratch.close, Action.run_bind, Site.run_getDriver]
  simp only [Action.run_bind, opens.handle_eq, Action.run_ofExcept_ok,
    Site.run_setDriver]
  cases site.driver.refusesClose <;> rfl

/-- A file is open to be read, and has been read up to a place in it. -/
structure ScratchReads (file : FileId) (path : String) (data : Bytes)
    (cursor : Nat) (scratch : Scratch) : Prop where
  opens : ScratchOpens .read file path data cursor scratch
  closes : scratch.refusesClose = false
  inside : cursor ≤ data.length

/-- A scratch volume moves files piecewise. -/
def scratchPiecewise (σ : Type) [BlockDevice σ] :
    Piecewise σ scratchOutlook where
  writing file path sent := ScratchOpens wholeFlags file path sent sent.length
  keeping := ScratchKeeps
  begun file path data surplus scratch :=
    surplus = 0 ∧ ScratchReads file path data 0 scratch
  reading := ScratchReads
  contents keeps := scratchContents_of_has keeps.has
  short keeps := keeps.has.short
  openToWrite := leaves_openToWrite_scratch
  write _ := leaves_write_scratch
  closeWritten := by
    intro file path data
    refine ensures_of_done fun site _ after opens run => ?_
    have ends := (run_close_scratch opens).symm.trans run
    split at ends
    · nomatch ends
    · next closes =>
      cases ends
      exact ⟨opens.has.of_handles _ _, by simpa using closes⟩
  openToRead := by
    rintro path data surplus permissions site ⟨keeps, more, rfl⟩
    obtain ⟨file, left, run, opens, closes⟩ :=
      answers_openToRead_scratch permissions site ⟨keeps, more⟩
    exact ⟨file, left, run, rfl, opens, closes, Nat.zero_le _⟩
  openSpent := by
    intro path data permissions site keeps spent
    have none : ¬ site.driver.nextId.toNat + 1 < fieldLimit :=
      Nat.not_lt.mpr (Nat.le_of_eq (Eq.symm spent))
    exact (run_openToRead_scratch permissions keeps.has).trans (if_neg none)
  stat := by
    rintro file path data surplus site ⟨rfl, reads⟩
    exact ⟨_, _, run_stat_scratch reads.opens.has, rfl, reads⟩
  read := by
    rintro file path data cursor length more site ⟨opens, closes, inside⟩
    refine ⟨_, _, run_read_scratch length inside opens, length, more,
      Nat.le_refl _, rfl, opens_setHandle opens.has, closes, ?_⟩
    rw [Bytes.window, List.length_take, List.length_drop]
    omega
  closeRead := by
    rintro file path data cursor site ⟨opens, closes, _⟩
    have run := run_close_scratch opens
    rw [closes] at run
    exact ⟨_, _, run, trivial⟩

end

end MountSpace.Proofs.Drivers
