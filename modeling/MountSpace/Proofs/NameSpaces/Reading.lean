import MountSpace.Device.RamDisk
import MountSpace.Proofs.NameSpaces.Volumes
import MountSpace.Proofs.Volumes.Transfers

/-!
# `MountSpace.Proofs.NameSpaces.Reading`: reading through a descriptor

A descriptor that was opened for reading leads to an open file of a mounted
volume (`OpenAt`). What is read is a part of the contents of the file, which
starts at the given position, or where the last transfer ended, or at the
end if that is behind it. The bytes go into a part of a buffer, which has to
lie within it (`Filling`).

Reading changes where the next transfer starts, and nothing else
(`Advanced`). So reads one after the other give the contents piece by piece
(`ReadsOn`), and a read of something that gives nothing is one at the end.

* `run_readWith`: what a read comes to.
* `ReadsOn.openAt`: the invariant of reads one after the other.
* `reads_file`: all of it together.
-/

set_option autoImplicit false

namespace MountSpace.Proofs.NameSpaces

open Effects
open MountSpace.NameSpace
open Volumes (handle_setHandle readStart run_read)

variable {σ : Type} [BlockDevice σ]

/-! ### Where a descriptor leads -/

/-- An open file of a mounted volume, and all that is around it. -/
structure Seat (σ : Type) where
  /-- What the descriptor stands for. -/
  opened : OpenFile DriverId
  /-- What is mounted. -/
  mounted : Mounted
  /-- The device of the volume, and the events. -/
  medium : Medium σ
  /-- The open file. -/
  handle : Handle

namespace Seat

/-- The volume, as its driver has it. -/
def site (seat : Seat σ) : Site Backend σ :=
  ⟨.volume ⟨some seat.mounted⟩, seat.medium⟩

/-- The next transfer starts somewhere else. -/
def moved (seat : Seat σ) (cursor : Nat) : Seat σ :=
  { seat with
    mounted :=
      seat.mounted.setHandle seat.opened.file { seat.handle with cursor }
    handle := { seat.handle with cursor } }

/-- A name space with the volume as the seat has it. -/
def within (seat : Seat σ) (space : NameSpace Backend σ) :
    NameSpace Backend σ :=
  { space with
    world := World.putSite seat.opened.driver seat.site space.world }

end Seat

/-- A descriptor that can be read leads to a file with these contents. -/
structure OpenAt (space : NameSpace Backend σ) (descriptor : Nat)
    (seat : Seat σ) (data : Bytes) : Prop where
  held : space.descriptors.get descriptor = .ok seat.opened
  there : space.world.site? seat.opened.driver = some seat.site
  isOpen : seat.mounted.handle seat.opened.file = .ok seat.handle
  readable : seat.handle.flags.readable = true
  found : seat.mounted.root.lookup seat.handle.path = .ok (.file data)

/-- The same file, without what is around it. -/
def StandsAt (space : NameSpace Backend σ) (descriptor : Nat)
    (data : Bytes) (cursor : Nat) : Prop :=
  ∃ seat, OpenAt space descriptor seat data ∧ seat.handle.cursor = cursor

/-- A buffer of which a part has been filled with what is in a file from
`start` on. -/
structure Filling (data : Bytes) (start : Nat) (buffer : Bytes)
    (offset length : Nat) (filled : Filled) : Prop where
  count : filled.count = min length (data.length - start)
  same : filled.buffer.length = buffer.length
  bytes : ∀ index, filled.buffer[index]? =
    if offset ≤ index ∧ index < offset + filled.count
    then data[start + (index - offset)]? else buffer[index]?

/-- Nothing is other than it was, but where the next transfer of an open
file starts. -/
structure Advanced (seat : Seat σ) (cursor : Nat)
    (before after : NameSpace Backend σ) : Prop where
  registry : after.registry = before.registry
  mounts : after.mounts = before.mounts
  descriptors : after.descriptors = before.descriptors
  directory : after.directory = before.directory
  devices : after.world.devices = before.world.devices
  events : after.world.events = before.world.events
  others : ∀ driver, driver ≠ seat.opened.driver →
    after.world.driver? driver = before.world.driver? driver
  /-- The tree is as it was, and so are all other open files. -/
  volume : ∃ mounted,
    after.world.driver? seat.opened.driver = some (.volume ⟨some mounted⟩)
      ∧ mounted.root = seat.mounted.root
      ∧ mounted.geometry = seat.mounted.geometry
      ∧ mounted.nextId = seat.mounted.nextId
      ∧ ∀ file, Keyed.get? mounted.handles file =
        if file = seat.opened.file then some { seat.handle with cursor }
        else Keyed.get? seat.mounted.handles file

section

variable {space : NameSpace Backend σ} {descriptor : Nat} {seat : Seat σ}
  {data : Bytes}

omit [BlockDevice σ]

/-- The descriptor leads to the same file afterwards. -/
theorem OpenAt.moved (isAt : OpenAt space descriptor seat data)
    (cursor : Nat) :
    OpenAt ((seat.moved cursor).within space) descriptor (seat.moved cursor)
      data where
  held := isAt.held
  there := site?_putSite_self isAt.there _
  isOpen := handle_setHandle seat.mounted seat.opened.file _
  readable := isAt.readable
  found := isAt.found

theorem OpenAt.advanced (isAt : OpenAt space descriptor seat data)
    (cursor : Nat) :
    Advanced seat cursor space ((seat.moved cursor).within space) := by
  -- A volume reads from memory.
  have same : (seat.moved cursor).site.medium = seat.site.medium := rfl
  obtain ⟨devices, events⟩ := devices_putSite isAt.there same
  refine ⟨rfl, rfl, rfl, rfl, devices, events, ?_, ?_⟩
  · intro driver other
    exact driver?_putSite_of_ne other _ _
  · refine ⟨(seat.moved cursor).mounted,
      driver?_putSite_self isAt.there _, rfl, rfl, rfl, ?_⟩
    intro file
    exact (Keyed.get?_insert seat.mounted.handles _ _ file).trans
      (if_congr eq_comm rfl rfl)

/-! ### One read -/

/-- What was read lies in its part of the buffer, and the rest is as it
was. -/
theorem filling_splice {start offset length : Nat} {buffer : Bytes}
    (room : offset + length ≤ buffer.length) :
    Filling data start buffer offset length
      ⟨(data.window start length).length,
        buffer.splice offset (data.window start length)⟩ := by
  have count : (data.window start length).length
      = min length (data.length - start) := by
    rw [Bytes.window, List.length_take, List.length_drop]
  have inside : offset + (data.window start length).length
      ≤ buffer.length := by omega
  refine ⟨count, ?_, fun index => ?_⟩
  · rw [Bytes.length_splice]
    omega
  · simp only [Bytes.getElem?_splice inside]
    split
    · next within =>
      rw [Bytes.window, List.getElem?_take_of_lt (by omega),
        List.getElem?_drop]
    · rfl

end

section

variable {space : NameSpace Backend σ} {descriptor : Nat} {seat : Seat σ}
  {data : Bytes}

/-- What is asked of the volume behind a descriptor. -/
theorem OpenAt.run_call_read (isAt : OpenAt space descriptor seat data)
    (length : Nat) (position : Option Nat) :
    (call seat.opened.driver
        (.read seat.opened.file length position)).run space
      = .done (data.window (readStart seat.handle position data) length)
          ((seat.moved (readStart seat.handle position data
            + (data.window (readStart seat.handle position data)
              length).length)).within space) := by
  rw [run_call, isAt.there]
  simp only [Seat.site, run_serve_volume,
    run_read isAt.isOpen isAt.readable isAt.found]
  rfl

/-- A part of a buffer is filled if it lies within the buffer. -/
theorem OpenAt.run_readWith (isAt : OpenAt space descriptor seat data)
    {buffer : Bytes} {offset length : Nat}
    (room : offset + length ≤ buffer.length) (position : Option Nat) :
    (readWith descriptor buffer offset length position).run space
      = .done
          ⟨(data.window (readStart seat.handle position data) length).length,
            buffer.splice offset
              (data.window (readStart seat.handle position data) length)⟩
          ((seat.moved (readStart seat.handle position data
            + (data.window (readStart seat.handle position data)
              length).length)).within space) := by
  rw [readWith, Action.run_bind, run_fileOf isAt.held]
  simp only [Action.run_bind, run_requireWindow room,
    isAt.run_call_read length position]
  rfl

omit [BlockDevice σ] in
theorem run_requireWindow_of_lt {buffer : Bytes} {offset length : Nat}
    (past : buffer.length < offset + length) :
    (requireWindow buffer offset length).run space
      = .refused .invalidArgument space := by
  rw [requireWindow, if_neg (Nat.not_le.mpr past)]
  rfl

/-- And if it does not, nothing is read. -/
theorem OpenAt.run_readWith_of_lt (isAt : OpenAt space descriptor seat data)
    {buffer : Bytes} {offset length : Nat}
    (past : buffer.length < offset + length) (position : Option Nat) :
    (readWith descriptor buffer offset length position).run space
      = .refused .invalidArgument space := by
  rw [readWith, Action.run_bind, run_fileOf isAt.held]
  simp only [Action.run_bind, run_requireWindow_of_lt past]

/-- To fill a buffer is to fill all of it. -/
theorem read_eq_readWith (descriptor : Nat) (buffer : Bytes)
    (space : NameSpace Backend σ) :
    (NameSpace.read descriptor buffer).run space
      = (readWith descriptor buffer 0 buffer.length none).run space := by
  rw [NameSpace.read, receive, bind_assoc, readWith, Action.run_bind,
    Action.run_bind]
  cases (fileOf descriptor).run space with
  | refused fault after => rfl
  | stopped trap => rfl
  | done opened after =>
    simp only [Action.run_bind,
      run_requireWindow (Nat.le_of_eq (Nat.zero_add buffer.length))]

end

/-! ### Reads one after the other -/

/-- Reads one after the other through a descriptor have given these bytes.
Between them anything may happen, as long as the descriptor, its file and
the place of the next transfer are as they were. -/
inductive ReadsOn (descriptor : Nat) (data : Bytes)
    (start : NameSpace Backend σ) : Bytes → NameSpace Backend σ → Prop
  | none : ReadsOn descriptor data start [] start
  | part {found : Bytes} {space after : NameSpace Backend σ}
    {buffer : Bytes} {offset length : Nat} {filled : Filled}
    (reads : ReadsOn descriptor data start found space)
    (run : (readWith descriptor buffer offset length Option.none).run space
      = .done filled after) :
    ReadsOn descriptor data start
      (found ++ filled.buffer.window offset filled.count) after
  | between {found : Bytes} {space after : NameSpace Backend σ}
    (reads : ReadsOn descriptor data start found space)
    (stands : ∀ cursor, StandsAt space descriptor data cursor →
      StandsAt after descriptor data cursor) :
    ReadsOn descriptor data start found after

section

variable {space after : NameSpace Backend σ} {descriptor : Nat}
  {seat : Seat σ} {data found : Bytes}

/-- No more than the contents is there to be read. -/
theorem drop_min_length (data : Bytes) (cursor : Nat) :
    data.drop (min cursor data.length) = data.drop cursor := by
  rcases Nat.le_total cursor data.length with before | past
  · rw [Nat.min_eq_left before]
  · rw [Nat.min_eq_right past, List.drop_length,
      List.drop_eq_nil_of_le past]

/-- Reads one after the other leave what has not been read. -/
theorem ReadsOn.openAt (isAt : OpenAt space descriptor seat data)
    (reads : ReadsOn descriptor data space found after) :
    ∃ now, OpenAt after descriptor now data
      ∧ found ++ data.drop now.handle.cursor
        = data.drop seat.handle.cursor := by
  induction reads with
  | none => exact ⟨seat, isAt, List.nil_append _⟩
  | @part found space after buffer offset length filled _ run ih =>
    obtain ⟨now, nowAt, rest⟩ := ih
    by_cases room : offset + length ≤ buffer.length
    · rw [nowAt.run_readWith room] at run
      cases run
      refine ⟨_, nowAt.moved _, ?_⟩
      have inside : offset ≤ buffer.length := by omega
      -- What was read is found in the buffer, and what is left follows it.
      rw [List.append_assoc, Bytes.window_splice inside, ← rest,
        ← drop_min_length data now.handle.cursor]
      exact congrArg (found ++ ·) (Bytes.window_append_drop ..)
    · rw [nowAt.run_readWith_of_lt (Nat.not_le.mp room)] at run
      nomatch run
  | between _ stands ih =>
    obtain ⟨now, nowAt, rest⟩ := ih
    obtain ⟨later, laterAt, same⟩ := stands _ ⟨now, nowAt, rfl⟩
    exact ⟨later, laterAt, same ▸ rest⟩

/-- A read of something gives nothing at the end of the file only. -/
theorem OpenAt.run_read_of_ne_nil (isAt : OpenAt space descriptor seat data)
    {buffer : Bytes} (some : buffer ≠ []) :
    ∃ filled after, (NameSpace.read descriptor buffer).run space
        = .done filled after
      ∧ (filled.count = 0 ↔ data.drop seat.handle.cursor = []) := by
  have positive := List.length_pos_iff.mpr some
  refine ⟨_, _, (read_eq_readWith descriptor buffer space).trans
    (isAt.run_readWith (Nat.le_of_eq (Nat.zero_add buffer.length)) none), ?_⟩
  rw [List.drop_eq_nil_iff]
  simp only [Bytes.window, List.length_take, List.length_drop, readStart,
    Option.getD_none]
  omega

/-- A read is refused when its part of the buffer does not lie within it,
and only then, and nothing has happened. Every other read gives what there
is from where it starts on, puts it in its place in the buffer, and changes
nothing but where the next transfer of the open file starts. To fill a
buffer is such a read. So what reads one after the other have given is the
beginning of what there was to read, and a further read gives nothing if and
only if it has all been read. -/
theorem reads_file (isAt : OpenAt space descriptor seat data) :
    (∀ buffer offset length position,
      ((readWith descriptor buffer offset length position).run space
          = .refused .invalidArgument space
        ↔ buffer.length < offset + length)
      ∧ (offset + length ≤ buffer.length →
        ∃ filled after,
          (readWith descriptor buffer offset length position).run space
            = .done filled after
          ∧ Filling data (readStart seat.handle position data) buffer
            offset length filled
          ∧ Advanced seat
            (readStart seat.handle position data + filled.count)
            space after))
      ∧ (∀ buffer, (NameSpace.read descriptor buffer).run space
        = (readWith descriptor buffer 0 buffer.length none).run space)
      ∧ ∀ found after, ReadsOn descriptor data space found after →
        found <+: data.drop seat.handle.cursor
          ∧ ∀ buffer, buffer ≠ [] → ∃ filled last,
            (NameSpace.read descriptor buffer).run after
              = .done filled last
            ∧ (filled.count = 0
              ↔ found = data.drop seat.handle.cursor) := by
  refine ⟨fun buffer offset length position => ⟨⟨?_, ?_⟩, ?_⟩, ?_, ?_⟩
  · intro refused
    by_contra room
    rw [isAt.run_readWith (Nat.not_lt.mp room)] at refused
    nomatch refused
  · intro past
    exact isAt.run_readWith_of_lt past position
  · intro room
    exact ⟨_, _, isAt.run_readWith room position, filling_splice room,
      isAt.advanced _⟩
  · exact fun buffer => read_eq_readWith descriptor buffer space
  · intro found after reads
    obtain ⟨now, nowAt, rest⟩ := reads.openAt isAt
    refine ⟨⟨_, rest⟩, fun buffer some => ?_⟩
    obtain ⟨filled, last, run, none⟩ := nowAt.run_read_of_ne_nil some
    refine ⟨filled, last, run, none.trans ?_⟩
    rw [← rest, List.self_eq_append_right]

end

/-- A file of five bytes is opened, and two of them are read. -/
def halfRead : Option (NameSpace Backend RamDisk × Seat RamDisk) := do
  let space ← afterAll (rootVolume ++ [.writeWhole "/f" [1, 2, 3, 4, 5]])
    { (NameSpace.empty 16 : NameSpace Backend RamDisk) with
      world := ⟨[⟨96, 32, ∅⟩], [], []⟩ }
  let space ← ((openFile "/f" "r" defaultPermissions).run space).after?
  let space ← ((NameSpace.read 3 [0, 0]).run space).after?
  let opened ← (space.descriptors.get 3).toOption
  let site ← space.world.site? opened.driver
  let mounted ← (← volume? site.driver).mounted
  let handle ← (mounted.handle opened.file).toOption
  return (space, ⟨opened, mounted, site.medium, handle⟩)

/-- The other three are put into the middle of a buffer. -/
theorem reads_file_sample :
    ∃ (space after : NameSpace Backend RamDisk) (seat : Seat RamDisk)
      (filled : Filled), OpenAt space 3 seat [1, 2, 3, 4, 5]
        ∧ seat.handle.cursor = 2
        ∧ (readWith 3 (Bytes.zeros 8) 4 4 none).run space
          = .done filled after
        ∧ filled.count = 3 ∧ filled.buffer[4]? = some 3
        ∧ filled.buffer[7]? = some 0
        ∧ (readWith 3 (Bytes.zeros 8) 4 5 none).run space
          = .refused .invalidArgument space := by
  have shape : halfRead.any (fun (space, seat) =>
      space.descriptors.get 3 = .ok seat.opened
        ∧ space.world.site? seat.opened.driver = some seat.site
        ∧ seat.mounted.handle seat.opened.file = .ok seat.handle
        ∧ seat.handle.flags.readable = true
        ∧ seat.mounted.root.lookup seat.handle.path
          = .ok (.file [1, 2, 3, 4, 5])
        ∧ seat.handle.cursor = 2) := by
    decide +kernel
  obtain ⟨⟨space, seat⟩, _, known⟩ := (Option.any_eq_true _ _).mp shape
  obtain ⟨held, there, isOpen, readable, found, cursor⟩ :=
    of_decide_eq_true known
  have isAt : OpenAt space 3 seat [1, 2, 3, 4, 5] :=
    ⟨held, there, isOpen, readable, found⟩
  have start : readStart seat.handle none [1, 2, 3, 4, 5] = 2 := by
    rw [readStart, cursor]
    rfl
  obtain ⟨reads, _⟩ := reads_file isAt
  obtain ⟨filled, after, run, filling, _⟩ :=
    (reads (Bytes.zeros 8) 4 4 none).2 (by decide)
  rw [start] at filling
  have count : filled.count = 3 := filling.count
  refine ⟨space, after, seat, filled, isAt, cursor, run, count, ?_, ?_,
    (reads (Bytes.zeros 8) 4 5 none).1.mpr (by decide)⟩
  · rw [filling.bytes, count]
    rfl
  · rw [filling.bytes, count]
    rfl

end MountSpace.Proofs.NameSpaces
