import MountSpace.Proofs.Volumes.Handles
import MountSpace.Proofs.Volumes.Persistence

/-!
# `MountSpace.Proofs.Volumes.Transfers`: reads and writes of open files

A transfer through an open file is one of the file at its path, and of no
other file (`StandsFor`).

* `stands_for_file`: that is the file that was opened for as long as there
  is that file, wherever it has been moved. When it is gone and there is no
  other one at the path, every transfer is refused.
* `writes_to_another`: but another file at the path is taken for it. An
  open file knows its path only, so nothing tells the two apart.
-/

set_option autoImplicit false

namespace MountSpace.Proofs.Volumes

open Effects Trees

section

variable {σ α : Type} {mounted : Mounted} {census : Census} {file : FileId}
  {handle : Handle}

/-- Reads through an open file, and writes of something. -/
def Transfers (file : FileId) : Request α → Prop
  | .read other _ _ => other = file
  | .write other data _ => other = file ∧ data ≠ []
  | _ => False

/-- Where a read starts: not past the end. -/
def readStart (handle : Handle) (position : Option Nat) (contents : Bytes) :
    Nat :=
  min (position.getD handle.cursor) contents.length

/-- Where a write starts: at the end, if it is to append. -/
def writeStart (handle : Handle) (position : Option Nat)
    (contents : Bytes) : Nat :=
  if handle.flags.appends then contents.length
  else position.getD handle.cursor

theorem handle_of_get? {mounted : Mounted} {file : FileId} {handle : Handle}
    (opened : Keyed.get? mounted.handles file = some handle) :
    mounted.handle file = .ok handle := by
  rw [Mounted.handle, opened]

theorem handle_setHandle (mounted : Mounted) (file : FileId)
    (handle : Handle) :
    (mounted.setHandle file handle).handle file = .ok handle :=
  handle_of_get? (Keyed.get?_insert_self ..)

theorem read_of_planned {length : Nat} {position : Option Nat}
    {plan : Plan Bytes} (found : mounted.handle file = .ok handle)
    (made : planned ⟨some mounted⟩ (.read file length position)
      = .ok plan) :
    plan.next.root = mounted.root
      ∧ ∃ contents, fileAt mounted.root handle.path = some contents
        ∧ plan.value
          = contents.window (readStart handle position contents) length := by
  obtain ⟨other, contents, start, opened, isFile, rfl, rfl⟩ :=
    read_eq_ok made
  cases found.symm.trans opened
  exact ⟨rfl, contents, isFile, rfl⟩

theorem write_of_planned {data : Bytes} {position : Option Nat}
    {plan : Plan Nat}
    (found : mounted.handle file = .ok handle) (some : data ≠ [])
    (made : planned ⟨.some mounted⟩ (.write file data position)
      = .ok plan) :
    ∃ contents, fileAt mounted.root handle.path = .some contents
      ∧ plan.value = data.length
      ∧ ∀ path, fileAt plan.next.root path = if path = handle.path
        then .some (contents.splice (writeStart handle position contents)
          data)
        else fileAt mounted.root path := by
  obtain ⟨_, known, made⟩ := bind_eq_ok_iff.mp made
  cases known
  obtain ⟨other, writable, made⟩ := bind_eq_ok_iff.mp made
  cases found.symm.trans (writableHandle_eq_ok writable)
  rw [if_neg (by simpa using some)] at made
  obtain ⟨⟨contents, start⟩, target, made⟩ := bind_eq_ok_iff.mp made
  obtain ⟨lookup, rfl, _⟩ := target_eq_ok target
  have isFile := fileAt_eq_some_iff.mpr lookup
  obtain ⟨root, rfl, files⟩ := write_eq_ok isFile made
  exact ⟨contents, isFile, rfl, files⟩

/-- The contents of a file, in the tree in memory. -/
def contentsAt (site : Site Volume σ) (path : List String) : Option Bytes :=
  site.driver.mounted.bind fun mounted => fileAt mounted.root path

variable {site : Site Volume σ}

theorem contentsAt_eq (known : site.driver = ⟨some mounted⟩)
    (path : List String) : contentsAt site path = fileAt mounted.root path := by
  rw [contentsAt, known]
  rfl

variable [BlockDevice σ]

/-- Reading asks no device. -/
theorem run_read {data : Bytes} (isOpen : mounted.handle file = .ok handle)
    (readable : handle.flags.readable = true)
    (found : mounted.root.lookup handle.path = .ok (.file data))
    (medium : Medium σ) (length : Nat) (position : Option Nat) :
    (Volume.serve (.read file length position)).run
        ⟨⟨some mounted⟩, medium⟩
      = .done (data.window (readStart handle position data) length)
          ⟨⟨some (mounted.setHandle file { handle with
            cursor := readStart handle position data
              + (data.window (readStart handle position data)
                length).length })⟩, medium⟩ := by
  refine run_onMounted_of_keeping ?_ medium
  rw [Mounted.read, isOpen, ok_bind, readable]
  simp only [found, ok_bind]
  rfl

/-- A write finds no file at the path before it asks for room, so it is
refused and never stops. -/
theorem run_write_of_missing {data : Bytes} {position : Option Nat}
    (known : site.driver = ⟨some mounted⟩)
    (word : mounted.geometry.capacity < wordLimit)
    (found : mounted.handle file = .ok handle) (some : data ≠ [])
    (missing : fileAt mounted.root handle.path = none) :
    ∃ fault, (Volume.write file data position).run site
      = .refused fault site := by
  have room : mounted.geometry.room
      = (pure mounted.geometry.capacity : Action (Site Volume σ) Nat) :=
    if_pos word
  rw [Volume.write, Action.run_bind, run_getMounted, current, known]
  simp only [Action.run_ofExcept_ok, Action.run_bind, room]
  cases writable : mounted.writableHandle file with
  | error fault => exact ⟨fault, rfl⟩
  | ok other =>
    cases found.symm.trans (writableHandle_eq_ok writable)
    have more : ¬ data.isEmpty = true := by simpa using some
    simp only [Action.run_ofExcept_ok, if_neg more, Action.run_bind,
      Action.run_pure]
    cases target : mounted.target handle data.length position
        mounted.geometry.capacity with
    | error fault => exact ⟨fault, rfl⟩
    | ok result =>
      have isFile := fileAt_eq_some_iff.mpr (target_eq_ok target).1
      cases missing.symm.trans isFile

/-- Without a file at the path no transfer is done, and nothing at all
happens. -/
theorem run_of_missing {request : Request α}
    (known : site.driver = ⟨some mounted⟩)
    (word : mounted.geometry.capacity < wordLimit)
    (found : mounted.handle file = .ok handle)
    (missing : fileAt mounted.root handle.path = none)
    (transfers : Transfers file request) :
    ∃ fault, (Volume.serve request).run site = .refused fault site := by
  cases request with
  | read other length position =>
    cases transfers
    have run : (Volume.serve (.read file length position)).run site
        = (Action.ofExcept (planned site.driver
          (.read file length position)) >>= Volume.perform).run site :=
      run_onMounted _ site
    rw [run, known]
    cases made : planned ⟨some mounted⟩ (.read file length position) with
    | error fault => exact ⟨fault, rfl⟩
    | ok plan =>
      obtain ⟨_, contents, isFile, _⟩ := read_of_planned found made
      nomatch missing.symm.trans isFile
  | write other data position =>
    obtain ⟨rfl, more⟩ := transfers
    exact run_write_of_missing known word found more missing
  | _ => exact transfers.elim

/-- What an open file stands for. -/
structure StandsFor (site : Site Volume σ) (census : Census)
    (file : FileId) (handle : Handle) : Prop where
  /-- The file that was opened is at the path of the open file, if it still
  is anywhere. -/
  opened : ∃ identity, census.opened file = some identity
    ∧ ∀ path, census.owner path = some identity → path = handle.path
  /-- What is read is in the file at that path, and no file is changed. -/
  reads : ∀ {length : Nat} {position : Option Nat} {data : Bytes}
    {after : Site Volume σ},
    (Volume.serve (.read file length position)).run site = .done data after →
    (∃ contents, contentsAt site handle.path = some contents
      ∧ data = contents.window (readStart handle position contents) length)
      ∧ ∀ path, contentsAt after path = contentsAt site path
  /-- What is written goes to the file at that path, and to no other. -/
  writes : ∀ {data : Bytes} {position : Option Nat} {count : Nat}
    {after : Site Volume σ}, data ≠ [] →
    (Volume.serve (.write file data position)).run site = .done count after →
    (∃ contents, contentsAt site handle.path = some contents
      ∧ contentsAt after handle.path
        = some (contents.splice (writeStart handle position contents) data))
      ∧ ∀ path, path ≠ handle.path →
        contentsAt after path = contentsAt site path
  /-- Without a file at that path all transfers are refused, and nothing
  happens. -/
  refuses : census.owner handle.path = none →
    ∀ {α : Type} {request : Request α}, Transfers file request →
      ∃ fault, (Volume.serve request).run site = .refused fault site

theorem Tracks.standsFor (tracks : Tracks mounted census)
    (known : site.driver = ⟨some mounted⟩)
    (found : mounted.handle file = .ok handle) :
    StandsFor site census file handle where
  opened := tracks.accounts.follows (mem_of_handle found)
  reads := by
    intro length position data after done
    have files : AboutFiles (.read file length position) := trivial
    have meets := (ensures_planned files).apply known
    rw [done] at meets
    obtain ⟨plan, made, rfl, now⟩ := meets
    obtain ⟨root, contents, isFile, value⟩ := read_of_planned found made
    refine ⟨⟨contents, (contentsAt_eq known _).trans isFile, value⟩, ?_⟩
    intro path
    rw [contentsAt_eq now, contentsAt_eq known, root]
  writes := by
    intro data position count after more done
    have files : AboutFiles (.write file data position) := trivial
    have meets := (ensures_planned files).apply known
    rw [done] at meets
    obtain ⟨plan, made, rfl, now⟩ := meets
    obtain ⟨contents, isFile, _, written⟩ :=
      write_of_planned found more made
    refine ⟨⟨contents, (contentsAt_eq known _).trans isFile, ?_⟩, ?_⟩
    · rw [contentsAt_eq now, written, if_pos rfl]
    · intro path other
      rw [contentsAt_eq now, written, if_neg other, contentsAt_eq known]
  refuses := by
    intro none α request transfers
    have missing : fileAt mounted.root handle.path = .none := by
      have same := tracks.accounts.files handle.path
      rw [none] at same
      exact Option.isNone_iff_eq_none.mp
        (Option.isSome_eq_false_iff.mp same.symm)
    exact run_of_missing known tracks.word found missing transfers

/-- Whatever has been done since the volume was mounted or made empty, and
whatever the device did, as long as no number for an open file has been
given twice: the files are where the census says, each at one place, the
next number is a new one, and every open file stands for the file that is
at its path. -/
theorem stands_for_file (tracked : Tracked site census)
    (few : census.opens < 2 ^ 32) :
    (∀ path, (census.owner path).isSome = (contentsAt site path).isSome)
      ∧ (∀ path other identity, census.owner path = some identity →
        census.owner other = some identity → path = other)
      ∧ (∀ text flags permissions number after,
        (Volume.serve (.openFile text flags permissions)).run site
          = .done number after → census.opened number = none)
      ∧ ∃ mounted, site.driver = ⟨some mounted⟩
        ∧ ∀ file handle, mounted.handle file = .ok handle →
          StandsFor site census file handle := by
  obtain ⟨mounted, known, tracks⟩ := tracked.tracks (Nat.le_of_lt few)
  refine ⟨fun path => ?_, fun _ _ _ => tracks.accounts.apart, ?_, mounted,
    known, fun _ _ => tracks.standsFor known⟩
  · rw [contentsAt_eq known]
    exact tracks.accounts.files path
  · intro text flags permissions number after done
    have files : AboutFiles (.openFile text flags permissions) := trivial
    have meets := (ensures_planned files).apply known
    rw [done] at meets
    obtain ⟨plan, made, rfl, _⟩ := meets
    rw [planned] at made
    split at made
    · cases made
    · obtain ⟨path, _, made⟩ := bind_eq_ok_iff.mp made
      obtain ⟨value, _⟩ := opens_openFile made
      rw [value]
      exact tracks.accounts.opened_eq_none few

/-- The site and its census after a request, unless it stops. -/
def tracking (request : Request α) (state : Site Volume σ × Census) :
    Option (Site Volume σ × Census) :=
  let ending := (Volume.serve request).run state.1
  ending.after?.map fun after => (after, state.2.told request ending)

theorem Tracked.tracking {request : Request α}
    {state after : Site Volume σ × Census}
    (tracked : Tracked state.1 state.2)
    (left : Volumes.tracking request state = some after)
    (files : AboutFiles request) : Tracked after.1 after.2 := by
  obtain ⟨site, ends, rfl⟩ := Option.map_eq_some_iff.mp left
  exact tracked.request request files ends

/-- A mounted site, with the census of its tree. -/
def mounting (site : Site Volume σ) : Option (Site Volume σ × Census) :=
  match (Volume.serve .mount).run site with
  | .done _ after =>
    after.driver.mounted.map fun mounted => (after, .start mounted.root)
  | _ => none

theorem tracked_mounting {state : Site Volume σ × Census}
    (left : mounting site = some state) : Tracked state.1 state.2 := by
  rw [mounting] at left
  split at left
  · next after done =>
    obtain ⟨mounted, known, rfl⟩ := Option.map_eq_some_iff.mp left
    exact .start (Or.inl rfl) done (congrArg Volume.mk known)
  · nomatch left

end

/-- A new volume on a disk of four blocks. -/
def mountedDisk : Option (Site Volume RamDisk × Census) := do
  let formatted ← asked .format ⟨.fresh, ⟨⟨72, 18, ∅⟩, []⟩⟩
  mounting formatted

/-- The flags to write to a file that may be missing. -/
def creating : OpenFlags := .write ||| .create

/-- A file is opened and then moved to another directory. -/
def movedAway : Option (Site Volume RamDisk × Census) := do
  let state ← mountedDisk
  let state ← tracking (.openFile "a" creating 0) state
  let state ← tracking (.makeDirectory "d") state
  tracking (.rename "a" "d/b") state

/-- The open file has gone along. -/
theorem stands_for_file_sample :
    ∃ (site : Site Volume RamDisk) (census : Census) (handle : Handle),
      Tracked site census ∧ census.opens < 2 ^ 32
        ∧ census.opened 0 = some ⟨1, ["a"]⟩
        ∧ census.owner ["d", "b"] = some ⟨1, ["a"]⟩
        ∧ handle.path = ["d", "b"]
        ∧ StandsFor site census 0 handle := by
  have shape : movedAway.any (fun state => state.2.opens = 1
      ∧ state.2.opened 0 = some ⟨1, ["a"]⟩
      ∧ state.2.owner ["d", "b"] = some ⟨1, ["a"]⟩
      ∧ state.1.driver.mounted.map (·.handle 0)
        = some (.ok ⟨["d", "b"], creating, 0⟩)) := by
    decide +kernel
  obtain ⟨state, left, known⟩ := (Option.any_eq_true _ _).mp shape
  obtain ⟨opens, opened, owner, handle⟩ := of_decide_eq_true known
  obtain ⟨start, left₁, left⟩ := Option.bind_eq_some_iff.mp left
  obtain ⟨made, left₂, left⟩ := Option.bind_eq_some_iff.mp left
  obtain ⟨directory, left₃, left⟩ := Option.bind_eq_some_iff.mp left
  obtain ⟨formatted, _, left₁⟩ := Option.bind_eq_some_iff.mp left₁
  have tracked := (((tracked_mounting left₁).tracking left₂ trivial).tracking
    left₃ trivial).tracking left trivial
  have few : state.2.opens < 2 ^ 32 := by
    rw [opens]
    decide
  obtain ⟨_, _, _, mounted, now, stands⟩ := stands_for_file tracked few
  rw [now] at handle
  exact ⟨state.1, state.2, _, tracked, few, opened, owner, rfl,
    stands 0 _ (Option.some.inj handle)⟩

/-- An open file is removed, and another one is made at its path. -/
def madeAgain : Option (Site Volume RamDisk × Census) := do
  let state ← mountedDisk
  let state ← tracking (.openFile "f" creating 0) state
  let state ← tracking (.unlink "f") state
  tracking (.openFile "f" creating 0) state

/-- The file that was opened is nowhere, but what is written goes to the
one that is at its path now. -/
theorem writes_to_another :
    ∃ (site after : Site Volume RamDisk) (census : Census)
      (identity : Identity), Tracked site census ∧ census.opens < 2 ^ 32
        ∧ census.opened 0 = some identity
        ∧ (∀ path, census.owner path ≠ some identity)
        ∧ contentsAt site ["f"] = some []
        ∧ (Volume.serve (.write 0 [120] none)).run site = .done 1 after
        ∧ contentsAt after ["f"] = some [120] := by
  have shape : madeAgain.any (fun state => state.2.opens = 2
      ∧ state.2.opened 0 = some ⟨1, ["f"]⟩
      ∧ state.2.owner ["f"] = some ⟨2, ["f"]⟩
      ∧ state.1.driver.mounted.map (·.handle 0)
        = some (.ok ⟨["f"], creating, 0⟩)
      ∧ contentsAt state.1 ["f"] = some []
      ∧ (match (Volume.serve (.write 0 [120] none)).run state.1 with
        | .done count after => some (count, contentsAt after ["f"])
        | _ => none) = some (1, some [120])) := by
    decide +kernel
  obtain ⟨state, left, known⟩ := (Option.any_eq_true _ _).mp shape
  obtain ⟨opens, opened, owner, handle, contents, written⟩ :=
    of_decide_eq_true known
  obtain ⟨start, left₁, left⟩ := Option.bind_eq_some_iff.mp left
  obtain ⟨made, left₂, left⟩ := Option.bind_eq_some_iff.mp left
  obtain ⟨gone, left₃, left⟩ := Option.bind_eq_some_iff.mp left
  obtain ⟨formatted, _, left₁⟩ := Option.bind_eq_some_iff.mp left₁
  have tracked := (((tracked_mounting left₁).tracking left₂ trivial).tracking
    left₃ trivial).tracking left trivial
  have few : state.2.opens < 2 ^ 32 := by
    rw [opens]
    decide
  -- The first file could only be at the path at which the second one is.
  have nowhere (path : List String) :
      state.2.owner path ≠ some ⟨1, ["f"]⟩ := by
    intro owns
    obtain ⟨mounted, now, tracks⟩ := tracked.tracks (Nat.le_of_lt few)
    rw [now] at handle
    have member := mem_of_handle (Option.some.inj handle)
    obtain ⟨identity, same, follows⟩ := tracks.accounts.follows member
    cases opened.symm.trans same
    rw [follows path owns, owner] at owns
    exact absurd owns (by decide)
  split at written
  · next count after done =>
    simp only [Option.some.injEq, Prod.mk.injEq] at written
    obtain ⟨rfl, changed⟩ := written
    exact ⟨state.1, after, state.2, _, tracked, few, opened, nowhere, contents,
      done, changed⟩
  · nomatch written

end MountSpace.Proofs.Volumes
