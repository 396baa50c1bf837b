import MountSpace.Proofs.Volumes.Entries
import MountSpace.Proofs.Volumes.OpenNumbers
import MountSpace.Proofs.Volumes.Refusals

/-!
# `MountSpace.Proofs.Volumes.SharedNumbers`: a number for two files

The files that a volume opens are numbered with 32 bits, and after the
greatest number comes zero again, whether or not a file is still open under
it. To tell when that matters, all files that have been opened since the
volume was mounted are counted (`Tallied`).

* `Reckoned`: what is kept by every request. The next number is the count,
  as far as 32 bits go, and an open file got its number at most `2 ^ 32`
  files ago.
* `openFile_shares_iff`: so a file gets the number of another one that is
  open exactly if that was opened `2 ^ 32` files ago. Otherwise all open
  files stay as they are.
* `openFile_shares_number`: it does happen, to a file that nobody has
  closed.
-/

set_option autoImplicit false

namespace MountSpace.Proofs.Volumes

open Effects Trees

/-- How many numbers there are for open files: `2 ^ 32` of them. -/
def numberCount : Nat := UInt32.size

/-- How many files have been opened since the volume was mounted, and for
each number how many there were before the last one that got it. -/
structure Tally where
  opens : Nat
  serial : FileId → Nat

namespace Tally

/-- Nothing has been opened yet. -/
def zero : Tally := ⟨0, fun _ => 0⟩

/-- One more file has been opened, under this number. -/
def opening (tally : Tally) (file : FileId) : Tally where
  opens := tally.opens + 1
  serial other := if other = file then tally.opens else tally.serial other

/-- The count after a request that has been done. -/
def after (tally : Tally) : {α : Type} → Request α → α → Tally
  | _, .mount, _ => zero
  | _, .openFile .., file => tally.opening file
  | _, _, _ => tally

/-- A file that is open got its number less than a round of all numbers
ago, or just then. -/
structure Recent (tally : Tally) (file : FileId) : Prop where
  past : tally.serial file < tally.opens
  round : tally.opens ≤ tally.serial file + numberCount
  own : UInt32.ofNat (tally.serial file) = file

variable {tally : Tally} {file other : FileId}

/-- The number that comes next has been given out before, to a file that is
still open, if that was a whole round ago. -/
theorem Recent.eq_next_iff (recent : tally.Recent other) :
    other = UInt32.ofNat tally.opens
      ↔ tally.opens = tally.serial other + numberCount := by
  obtain ⟨past, round, own⟩ := recent
  have same : UInt32.ofNat (tally.serial other) = UInt32.ofNat tally.opens
      ↔ tally.serial other % numberCount = tally.opens % numberCount := by
    rw [← UInt32.toNat_inj, UInt32.toNat_ofNat', UInt32.toNat_ofNat']
    rfl
  rw [own] at same
  -- The two counts differ by one round at most.
  rw [same, numberCount, UInt32.size] at *
  omega

theorem recent_opening :
    (tally.opening (UInt32.ofNat tally.opens)).Recent
      (UInt32.ofNat tally.opens) := by
  constructor <;> simp [opening, numberCount, UInt32.size]

/-- Files that are open under other numbers are one file older. -/
theorem Recent.opening (recent : tally.Recent other)
    (different : other ≠ UInt32.ofNat tally.opens) :
    (tally.opening (UInt32.ofNat tally.opens)).Recent other := by
  have early := mt recent.eq_next_iff.mpr different
  obtain ⟨past, round, own⟩ := recent
  constructor
  · simp only [Tally.opening, if_neg different]
    omega
  · simp only [Tally.opening, if_neg different]
    omega
  · simpa only [Tally.opening, if_neg different] using own

end Tally

variable {σ α : Type} [BlockDevice σ]

/-! ### Counting -/

/-- Sites that any order of requests leads to, with the count that belongs
to each of them. -/
inductive Tallied : Site Volume σ → Tally → Prop where
  | fresh (medium : Medium σ) : Tallied ⟨.fresh, medium⟩ .zero
  | between {site : Site Volume σ} {tally : Tally} (medium : Medium σ) :
    Tallied site tally → Tallied { site with medium } tally
  | done {site after : Site Volume σ} {tally : Tally} {α : Type}
    {request : Request α} {value : α} : Tallied site tally →
    (Volume.serve request).run site = .done value after →
    Tallied after (tally.after request value)
  | refused {site after : Site Volume σ} {tally : Tally} {α : Type}
    {request : Request α} {fault : Fault} : Tallied site tally →
    (Volume.serve request).run site = .refused fault after →
    Tallied after tally

/-- Every order of requests can be counted. -/
theorem operated_iff_tallied {site : Site Volume σ} :
    Operated site ↔ ∃ tally, Tallied site tally := by
  constructor
  · intro operated
    induction operated with
    | fresh medium => exact ⟨_, .fresh medium⟩
    | between medium _ ih =>
      obtain ⟨tally, tallied⟩ := ih
      exact ⟨tally, tallied.between medium⟩
    | @request site after _ request _ left ih =>
      obtain ⟨tally, tallied⟩ := ih
      cases run : (Volume.serve request).run site with
      | done value last =>
        rw [run] at left
        cases left
        exact ⟨_, tallied.done run⟩
      | refused fault last =>
        rw [run] at left
        cases left
        exact ⟨_, tallied.refused run⟩
      | stopped trap =>
        rw [run] at left
        nomatch left
  · rintro ⟨tally, tallied⟩
    induction tallied with
    | fresh medium => exact .fresh medium
    | between medium _ ih => exact ih.between medium
    | done _ run ih => exact ih.request _ (congrArg Ending.after? run)
    | refused _ run ih => exact ih.request _ (congrArg Ending.after? run)

/-- The numbers of a mounted volume go with the count. -/
def Reckoned (tally : Tally) (volume : Volume) : Prop :=
  volume.mounted = none
  ∨ ∃ files, (∀ file, files file → tally.Recent file)
    ∧ Numbers files (UInt32.ofNat tally.opens) volume

variable {tally : Tally} {volume : Volume}

theorem reckoned_none : Reckoned tally ⟨none⟩ := Or.inl rfl

/-- No file is open, and the next number is what it was. -/
theorem reckoned_of_no_files
    (numbers : Numbers (fun _ => False) (UInt32.ofNat tally.opens) volume) :
    Reckoned tally volume :=
  Or.inr ⟨_, nofun, numbers⟩

/-- Requests about files are done only on what is mounted. -/
theorem numbers_of_done {request : Request α} {site after : Site Volume σ}
    {value : α} (reckoned : Reckoned tally site.driver)
    (run : (Volume.serve request).run site = .done value after)
    (files : AboutFiles request) :
    ∃ files, (∀ file, files file → tally.Recent file)
      ∧ Numbers files (UInt32.ofNat tally.opens) site.driver := by
  cases reckoned with
  | inr numbers => exact numbers
  | inl none =>
    obtain ⟨plan, made, _⟩ := planned_of_done run files
    obtain ⟨mounted, known, _⟩ := follows_planned made
    nomatch none.symm.trans known

/-- A request that is done leaves numbers that go with the next count. -/
theorem reckoned_of_done {request : Request α} {site after : Site Volume σ}
    {value : α} (reckoned : Reckoned tally site.driver)
    (run : (Volume.serve request).run site = .done value after) :
    Reckoned (tally.after request value) after.driver := by
  have passes (passing : Passing request) :
      Reckoned tally after.driver := by
    obtain ⟨files, recent, numbers⟩ :=
      numbers_of_done reckoned run passing.aboutFiles
    have kept := (keeps_numbers passing).apply numbers
    rw [run] at kept
    exact Or.inr ⟨files, recent, kept⟩
  cases request with
  | mount =>
    have left := ensures_mount_numbers site trivial
    rw [run] at left
    exact reckoned_of_no_files left
  | unmount =>
    have left := ensures_unmounted site trivial
    have gone : after.driver = ⟨none⟩ := by
      change (Volume.unmount).run site = _ at run
      rw [run] at left
      exact left
    rw [gone]
    exact reckoned_none
  | format =>
    have left := ensures_formatted site rfl
    change (Volume.format).run site = _ at run
    rw [run] at left
    obtain ⟨geometry, _, driver⟩ := left
    rw [driver]
    cases reckoned with
    | inl none =>
      rw [none]
      exact reckoned_none
    | inr some =>
      obtain ⟨_, _, mounted, known, numbered⟩ := some
      rw [known]
      refine reckoned_of_no_files ⟨_, rfl, List.Pairwise.nil, ?_, ?_⟩
      · simp [Keyed.keys]
      · exact numbered.nextId
  | openFile path flags permissions =>
    obtain ⟨files, recent, numbers⟩ := numbers_of_done reckoned run trivial
    have left := (ensures_openFile_numbers path flags permissions).apply
      numbers
    rw [run] at left
    obtain ⟨rfl, left⟩ := left
    have next : UInt32.ofNat (tally.opens + 1)
        = UInt32.ofNat tally.opens + 1 := UInt32.ofNat_add _ _
    rw [← next] at left
    refine Or.inr ⟨_, ?_, left⟩
    intro file known
    -- Whatever was open under the new number is not any more.
    by_cases same : file = UInt32.ofNat tally.opens
    · subst same
      exact Tally.recent_opening
    · exact (recent file (known.resolve_left same)).opening same
  | close file =>
    obtain ⟨files, recent, numbers⟩ := numbers_of_done reckoned run trivial
    have left := (ensures_close_numbers file).apply numbers
    rw [run] at left
    exact Or.inr ⟨_, fun other known => recent other known.1, left⟩
  | _ => exact passes trivial

/-- Whatever has been asked of a volume, its numbers go with the count. -/
theorem Tallied.reckoned {site : Site Volume σ} (tallied : Tallied site tally) :
    Reckoned tally site.driver := by
  induction tallied with
  | fresh medium => exact reckoned_none
  | between medium _ ih => exact ih
  | done _ run ih => exact reckoned_of_done ih run
  | @refused site after _ _ request _ _ run ih =>
    -- An unmount gives the tree up even if it is refused.
    by_cases gone : IsUnmount request
    · cases request with
      | unmount =>
        have left := ensures_unmounted site trivial
        change (Volume.unmount).run site = _ at run
        rw [run] at left
        rw [left]
        exact reckoned_none
      | _ => exact gone.elim
    · rw [driver_of_refused gone run]
      exact ih

/-! ### Sharing a number -/

/-- Whatever has been asked of a volume before, a file that is opened gets
a number under which another one is open exactly if that one was opened
`2 ^ 32` files ago; all others that are open stay as they are. So as long
as no file is kept open while `2 ^ 32` others are opened, no number is that
of an open file, and none of these is changed. -/
theorem openFile_shares_iff {site after : Site Volume σ}
    (tallied : Tallied site tally) {before : Mounted}
    (known : site.driver.mounted = some before) {text : String}
    {flags : OpenFlags} {permissions : UInt32} {file : FileId}
    (run : (Volume.serve (.openFile text flags permissions)).run site
      = .done file after) :
    ∃ path next, Volume.names text = .ok path
      ∧ after.driver = ⟨some next⟩
      ∧ Keyed.get? next.handles file = some ⟨path, flags, 0⟩
      ∧ (∀ other handle, Keyed.get? before.handles other = some handle →
        (other = file ↔ tally.opens = tally.serial other + numberCount)
        ∧ (other ≠ file →
          Keyed.get? next.handles other = some handle))
      ∧ ((∀ other ∈ Keyed.keys before.handles,
          tally.opens < tally.serial other + numberCount) →
        file ∉ Keyed.keys before.handles
        ∧ ∀ other handle, Keyed.get? before.handles other = some handle →
          Keyed.get? next.handles other = some handle) := by
  obtain ⟨path, plan, named, made, rfl, driver⟩ := planned_openFile known run
  obtain ⟨value, _, handles, _⟩ := openFile_eq_ok made
  obtain ⟨files, recent, mounted, same, numbered⟩ :=
    numbers_of_done tallied.reckoned run trivial
  cases known.symm.trans same
  have next : plan.value = UInt32.ofNat tally.opens :=
    value.trans numbered.nextId
  have stays (other : FileId) (handle : Handle)
      (isOpen : Keyed.get? before.handles other = some handle)
      (different : other ≠ plan.value) :
      Keyed.get? plan.next.handles other = some handle := by
    rw [value] at different
    rw [handles, Keyed.get?_insert_of_ne _ (Ne.symm different), isOpen]
  have shares (other : FileId) (member : other ∈ Keyed.keys before.handles) :
      other = plan.value ↔ tally.opens = tally.serial other + numberCount := by
    rw [next]
    exact (recent other ((numbered.files other).mp member)).eq_next_iff
  have isKey {other : FileId} {handle : Handle}
      (isOpen : Keyed.get? before.handles other = some handle) :
      other ∈ Keyed.keys before.handles :=
    List.mem_map_of_mem (f := Prod.fst) (Keyed.mem_of_get?_eq_some isOpen)
  refine ⟨path, plan.next, named, driver, ?_, ?_, ?_⟩
  · rw [handles, value, Keyed.get?_insert_self]
  · intro other handle isOpen
    exact ⟨shares other (isKey isOpen), stays other handle isOpen⟩
  · intro young
    have apart (other : FileId)
        (member : other ∈ Keyed.keys before.handles) : other ≠ plan.value := by
      intro same
      have := (shares other member).mp same
      have := young other member
      omega
    refine ⟨fun member => apart _ member rfl, ?_⟩
    intro other handle isOpen
    exact stays other handle isOpen (apart other (isKey isOpen))

/-- What a request that has been answered leaves, with the next count. -/
def counted (request : Request α) (start : Site Volume σ × Tally) :
    Option (Site Volume σ × Tally) :=
  match (Volume.serve request).run start.1 with
  | .done value after => some (after, start.2.after request value)
  | .refused _ after => some (after, start.2)
  | .stopped _ => none

theorem Tallied.counted {request : Request α} {site : Site Volume σ}
    {last : Site Volume σ × Tally} (tallied : Tallied site tally)
    (left : counted request (site, tally) = some last) :
    Tallied last.1 last.2 := by
  rw [Volumes.counted] at left
  split at left
  · next run =>
    cases left
    exact tallied.done run
  · next run =>
    cases left
    exact tallied.refused run
  · nomatch left

/-- An empty disk of eight blocks, and a volume that is not mounted. -/
def blank : Site Volume RamDisk := ⟨.fresh, ⟨⟨256, 32, ∅⟩, []⟩⟩

/-- The second file is opened right after the first one. -/
theorem openFile_shares_iff_sample :
    ∃ (site after : Site Volume RamDisk) (tally : Tally)
      (before next : Mounted),
      Tallied site tally ∧ site.driver.mounted = some before
      ∧ (Volume.serve (.openFile "g" (.write ||| .create) 0)).run site
        = .done 1 after
      ∧ Keyed.keys before.handles = [0]
      ∧ (∀ other ∈ Keyed.keys before.handles,
        tally.opens < tally.serial other + numberCount)
      ∧ after.driver = ⟨some next⟩
      ∧ (1 : FileId) ∉ Keyed.keys before.handles
      ∧ Keyed.get? next.handles 0 = some ⟨["f"], .write ||| .create, 0⟩ := by
  have shape : ((counted .format (blank, .zero)).any fun first =>
      (counted .mount first).any fun second =>
      (counted (.openFile "f" (.write ||| .create) 0) second).any fun last =>
        last.1.driver.mounted.any (fun mounted =>
          mounted.handles = [(0, ⟨["f"], .write ||| .create, 0⟩)])
        ∧ last.2.opens = 1
        ∧ ((Volume.serve (.openFile "g" (.write ||| .create) 0)).run
          last.1).reply? = some (.ok 1)) := by
    decide +kernel
  obtain ⟨first, formats, shape⟩ := (Option.any_eq_true _ _).mp shape
  obtain ⟨second, mounts, shape⟩ := (Option.any_eq_true _ _).mp shape
  obtain ⟨⟨site, tally⟩, opens, shape⟩ := (Option.any_eq_true _ _).mp shape
  obtain ⟨known, one, reply⟩ := of_decide_eq_true shape
  obtain ⟨before, isMounted, handles⟩ := (Option.any_eq_true _ _).mp known
  have handles := of_decide_eq_true handles
  have tallied : Tallied site tally :=
    (((Tallied.fresh _).counted formats).counted mounts).counted opens
  have keys : Keyed.keys before.handles = [0] := by
    rw [handles]
    rfl
  have young : ∀ other ∈ Keyed.keys before.handles,
      tally.opens < tally.serial other + numberCount := by
    intro other _
    have : tally.opens = 1 := one
    simp only [numberCount, UInt32.size]
    omega
  obtain ⟨after, run⟩ := eq_done_of_reply? reply
  obtain ⟨_, next, _, driver, _, _, apart⟩ :=
    openFile_shares_iff tallied isMounted run
  obtain ⟨fresh, stays⟩ := apart young
  refine ⟨site, after, tally, before, next, tallied, isMounted, run, keys,
    young, driver, fresh, stays 0 _ ?_⟩
  rw [handles]
  rfl

/-! ### A whole round of numbers -/

theorem askedAll_append
    (requests more : List ((α : Type) × Request α)) (site : Site Volume σ) :
    askedAll (requests ++ more) site
      = (askedAll requests site).bind (askedAll more) :=
  List.foldlM_append

/-- A file that is there is opened for reading and closed again, several
times over, starting at a number. -/
def cycles (text : String) (first : FileId) (count : Nat) :
    List ((α : Type) × Request α) :=
  (List.range count).flatMap fun index =>
    [⟨_, .openFile text .read 0⟩, ⟨_, .close (first + UInt32.ofNat index)⟩]

variable {mounted : Mounted} {text : String} {path : List String} {data : Bytes}

/-- A file that is opened for reading stays as it is, and no device is
asked. -/
theorem run_openFile_read (medium : Medium σ)
    (named : Volume.names text = .ok path)
    (found : mounted.root.lookup path = .ok (.file data)) :
    (Volume.serve (.openFile text .read 0)).run ⟨⟨some mounted⟩, medium⟩
      = .done mounted.nextId
        ⟨⟨some (mounted.opening path .read)⟩, medium⟩ := by
  have keeps : mounted.openFile path .read
      = .ok ((mounted.opening path .read).keeping mounted.nextId) := by
    rw [Mounted.openFile, found]
    rfl
  rw [run_openFile rfl named (by decide) 0, keeps]
  rfl

/-- To open a file and close it again takes one number, and otherwise
nothing has happened. -/
theorem askedAll_cycle (medium : Medium σ)
    (named : Volume.names text = .ok path)
    (found : mounted.root.lookup path = .ok (.file data))
    (free : mounted.nextId ∉ Keyed.keys mounted.handles) :
    askedAll [⟨_, .openFile text .read 0⟩, ⟨_, .close mounted.nextId⟩]
        ⟨⟨some mounted⟩, medium⟩
      = some ⟨⟨some { mounted with nextId := mounted.nextId + 1 }⟩,
        medium⟩ := by
  have isOpen : (mounted.opening path .read).handle mounted.nextId
      = .ok ⟨path, .read, 0⟩ := by
    rw [Mounted.handle, Mounted.opening, Mounted.setHandle]
    simp only [Keyed.get?_insert_self]
  have back : Keyed.erase (mounted.opening path .read).handles mounted.nextId
      = mounted.handles := Keyed.erase_insert free _
  have opens := congrArg Ending.after?
    (run_openFile_read medium named found)
  have closes := congrArg Ending.after? (run_close_of_open isOpen medium)
  rw [back] at closes
  rw [askedAll, List.foldlM_cons, asked, opens]
  show (asked _ _).bind some = _
  rw [asked, closes]
  rfl

/-- The number after some others. -/
theorem add_ofNat_succ (first : FileId) (count : Nat) :
    first + UInt32.ofNat (count + 1) = first + UInt32.ofNat count + 1 := by
  rw [UInt32.ofNat_add, UInt32.add_assoc]
  rfl

/-- So any number can be made the next one, if no file is open under one of
those that come before. -/
theorem askedAll_cycles (medium : Medium σ)
    (named : Volume.names text = .ok path)
    (found : mounted.root.lookup path = .ok (.file data)) (count : Nat)
    (free : ∀ index < count, mounted.nextId + UInt32.ofNat index
      ∉ Keyed.keys mounted.handles) :
    askedAll (cycles text mounted.nextId count) ⟨⟨some mounted⟩, medium⟩
      = some ⟨⟨some { mounted with
          nextId := mounted.nextId + UInt32.ofNat count }⟩, medium⟩ := by
  -- What a cycle leaves differs from the start in the next number alone.
  induction count with
  | zero =>
    have same : mounted.nextId + UInt32.ofNat 0 = mounted.nextId :=
      UInt32.add_zero _
    rw [same]
    rfl
  | succ count ih =>
    have before := ih fun index early => free index (by omega)
    let reached : Mounted :=
      { mounted with nextId := mounted.nextId + UInt32.ofNat count }
    have last :
        askedAll [⟨_, .openFile text .read 0⟩, ⟨_, .close reached.nextId⟩]
          ⟨⟨some reached⟩, medium⟩
        = some ⟨⟨some { reached with nextId := reached.nextId + 1 }⟩,
          medium⟩ :=
      askedAll_cycle medium named found (free count (by omega))
    rw [cycles, List.range_succ, List.flatMap_append, askedAll_append]
    rw [cycles] at before
    rw [before, add_ofNat_succ]
    simpa using last

/-- A file is opened and written to, and stays open. Another one is opened
and closed. -/
def held : List ((α : Type) × Request α) :=
  [⟨_, .format⟩, ⟨_, .mount⟩, ⟨_, .openFile "f" (.write ||| .create) 0⟩,
    ⟨_, .write 0 [1, 2] none⟩, ⟨_, .openFile "g" (.write ||| .create) 0⟩,
    ⟨_, .close 1⟩]

/-- A file that is held open while a whole round of numbers is used up has
to share its number with the next one: what is opened is put in its place,
at another path, with other flags and from the start. -/
theorem openFile_shares_number :
    ∃ (site after : Site Volume RamDisk) (before next : Mounted),
      askedAll (held ++ cycles "g" 2 (numberCount - 2)) blank = some site
      ∧ Operated site
      ∧ site.driver.mounted = some before
      ∧ Keyed.get? before.handles 0 = some ⟨["f"], .write ||| .create, 2⟩
      ∧ (Volume.serve (.openFile "g" .read 0)).run site = .done 0 after
      ∧ after.driver = ⟨some next⟩
      ∧ Keyed.get? next.handles 0 = some ⟨["g"], .read, 0⟩ := by
  have shape : ((askedAll held blank).any fun site =>
      site.driver.mounted.any fun mounted =>
        mounted.handles = [(0, ⟨["f"], .write ||| .create, 2⟩)]
        ∧ mounted.nextId = 2
        ∧ fileAt mounted.root ["g"] = some []) := by
    decide +kernel
  obtain ⟨⟨volume, medium⟩, left, shape⟩ := (Option.any_eq_true _ _).mp shape
  obtain ⟨mounted, known, shape⟩ := (Option.any_eq_true _ _).mp shape
  obtain ⟨handles, second, file⟩ := of_decide_eq_true shape
  have driver : volume = ⟨some mounted⟩ := congrArg Volume.mk known
  subst driver
  have found := fileAt_eq_some_iff.mp file
  have named : Volume.names "g" = .ok ["g"] := by decide
  -- The numbers that are used up are those from the second on.
  have free : ∀ index < numberCount - 2, mounted.nextId + UInt32.ofNat index
      ∉ Keyed.keys mounted.handles := by
    intro index early
    have keys : Keyed.keys mounted.handles = [0] := by
      rw [handles]
      rfl
    rw [keys, second, List.mem_singleton, ← UInt32.toNat_inj,
      UInt32.toNat_add, UInt32.toNat_ofNat']
    simp only [numberCount, UInt32.size] at early
    show ¬ (2 + index % 2 ^ 32) % 2 ^ 32 = 0
    omega
  have round := askedAll_cycles medium named found _ free
  have first : mounted.nextId + UInt32.ofNat (numberCount - 2) = 0 := by
    rw [second]
    decide
  rw [first, second] at round
  have all : askedAll (held ++ cycles "g" 2 (numberCount - 2)) blank
      = some ⟨⟨some { mounted with nextId := 0 }⟩, medium⟩ := by
    rw [askedAll_append, left, Option.bind_some, round]
  refine ⟨_, _, _, _, all, (Operated.fresh _).askedAll all, rfl, ?_,
    run_openFile_read medium named found, rfl, ?_⟩
  · rw [handles]
    rfl
  · simp only [Mounted.opening, Mounted.setHandle]
    exact Keyed.get?_insert_self mounted.handles 0 _

end MountSpace.Proofs.Volumes
