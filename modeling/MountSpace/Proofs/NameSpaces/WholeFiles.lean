import MountSpace.Proofs.Drivers.Piecewise
import MountSpace.Proofs.NameSpaces.Opening
import MountSpace.Proofs.NameSpaces.Serving

/-!
# `MountSpace.Proofs.NameSpaces.WholeFiles`: writing and reading whole files

A whole file is written and read by one transfer after the other, each of
which may move less than it is asked to. With drivers that move files
`Piecewise` a file that has been written holds what was written, and can be
read at once, if the driver has a number for it and does not tell more bytes
than there is room for.

* `Below`: a name space in which nothing has changed but the world.
* `ensures_sendAll`: the invariant of the loop that writes. What has been
  written is the contents of the file so far.
* `completes_receiveAll`: the invariant of the loop that reads. What is
  still to be read is the rest of the contents, and no longer than asked.
* `kept_of_done`: a file that has been written is kept, with a descriptor to
  spare.
* `readWhole_of_kept`, `readWhole_of_large`, `readWhole_of_spent`: a file that
  is kept is read, or one of the two limits is met.
* `roundTrips`: both together.
-/

set_option autoImplicit false

namespace MountSpace.Proofs.NameSpaces

open Effects
open MountSpace.NameSpace
open Drivers (Answers Leaves Outlook Piecewise wholeFlags)

variable {δ σ α : Type}

/-! ### Drivers in a name space -/

/-- Nothing has changed but the world, where a driver has a property. -/
structure Below (start : NameSpace δ σ) (driver : DriverId)
    (good : δ → Prop) (space : NameSpace δ σ) : Prop where
  same : space = { start with world := space.world }
  serves : Serves good space.world driver

section

variable {start space : NameSpace δ σ} {driver : DriverId}
  {good : δ → Prop} {descriptor : Nat} {opened : OpenFile DriverId}

theorem Below.descriptors_eq (isBelow : Below start driver good space) :
    space.descriptors = start.descriptors := by
  rw [isBelow.same]

/-- The world may change as it likes, if the driver is there. -/
theorem Below.world {world : World δ σ} {next : δ → Prop}
    (isBelow : Below start driver good space)
    (serves : Serves next world driver) :
    Below start driver next { space with world } := by
  refine ⟨?_, serves⟩
  rw [isBelow.same]

/-- And so may the table of descriptors. -/
theorem Below.descriptors (isBelow : Below start driver good space)
    (descriptors : DescriptorTable DriverId) :
    Below { start with descriptors } driver good
      { space with descriptors } := by
  refine ⟨?_, isBelow.serves⟩
  rw [isBelow.same]

theorem Below.imp {next : δ → Prop} (isBelow : Below start driver good space)
    (weaken : ∀ state, good state → next state) :
    Below start driver next space := by
  obtain ⟨installed, found, there, holds⟩ := isBelow.serves
  exact ⟨isBelow.same, installed, found, there, weaken _ holds⟩

theorem completes_fileOf (held : start.descriptors.get descriptor = .ok opened) :
    Completes (Below start driver good) (fileOf descriptor)
      (fun found space => found = opened ∧ Below start driver good space) := by
  intro space isBelow
  rw [← isBelow.descriptors_eq] at held
  exact ⟨opened, space, run_fileOf held, rfl, isBelow⟩

/-- The name space after a path has been looked up. -/
def routed (path rest : String) (mount : Mount DriverId)
    (space : NameSpace δ σ) : NameSpace δ σ :=
  { space with
    world := { space.world with
      events := .routed (Path.resolve space.directory path) mount.path rest
        :: space.world.events } }

/-- A path leads to its mount, and that is noted. -/
theorem run_lookup_of_leads {path rest : String} {mount : Mount DriverId}
    (leads : space.mounts.find (Path.resolve space.directory path)
      = .ok (mount, rest)) :
    (lookup path).run space
      = .done (mount, rest) (routed path rest mount space) := by
  rw [run_lookup, leads]
  rfl

theorem completes_lookup {path rest : String} {mount : Mount DriverId}
    (leads : start.mounts.find (Path.resolve start.directory path)
      = .ok (mount, rest)) :
    Completes (Below start driver good) (lookup path)
      (fun found space => found = (mount, rest)
        ∧ Below start driver good space) := by
  intro space isBelow
  have sameMounts : space.mounts = start.mounts := by rw [isBelow.same]
  have sameDirectory : space.directory = start.directory := by
    rw [isBelow.same]
  rw [← sameMounts, ← sameDirectory] at leads
  exact ⟨_, _, run_lookup_of_leads leads, rfl, isBelow.world isBelow.serves⟩

variable [Driver δ σ]

/-- What a driver does by itself it does in a name space. -/
theorem ensures_call_below {request : Request α} {next : α → δ → Prop}
    (serves : Leaves σ good request next) :
    Ensures (Below start driver good) (call driver request)
      (fun value => Below start driver (next value)) (fun _ _ => True) := by
  refine ensures_call (fun _ _ _ => trivial) ?_
  intro space site isBelow found
  exact (serves.apply (isBelow.serves.of_site? found)).imp
    (fun _ _ known => isBelow.world (serves_putSite found known))
    (fun _ _ _ => trivial)

theorem completes_call_below {request : Request α} {next : α → δ → Prop}
    (serves : Answers σ good request next) :
    Completes (Below start driver good) (call driver request)
      (fun value => Below start driver (next value)) := by
  intro space isBelow
  obtain ⟨site, found, holds⟩ := isBelow.serves.site?
  obtain ⟨value, left, run, known⟩ := serves site holds
  refine ⟨value, _, ?_, isBelow.world (serves_putSite found known)⟩
  rw [run_call, found]
  simp only [run]

end

/-! ### Opening and closing -/

section

variable {start space after : NameSpace δ σ} {driver : DriverId}
  {good : δ → Prop} {descriptor : Nat} {opened : OpenFile DriverId}
  {path rest mode : String} {mount : Mount DriverId} {flags : OpenFlags}
  {permissions : UInt32}

variable [Driver δ σ]

/-- A driver opens a file when a path leads to it. -/
theorem run_begin_of_leads (known : OpenFlags.ofMode mode = .ok flags)
    (leads : space.mounts.find (Path.resolve space.directory path)
      = .ok (mount, rest)) :
    (begin path mode permissions).run space
      = ((call mount.driver (.openFile rest flags permissions)) >>=
          fun file => pure ⟨file, mount.driver, mount.path⟩).run
        (routed path rest mount space) := by
  simp only [begin, known, Action.run_bind, Action.run_ofExcept_ok,
    run_lookup_of_leads leads]

/-- A file that has been opened has been opened where its path leads. -/
theorem leads_of_done
    (run : (openFile path mode permissions).run space
      = .done descriptor after) :
    ∃ mount rest, space.mounts.find (Path.resolve space.directory path)
      = .ok (mount, rest) := by
  obtain ⟨flags, between, known, run⟩ := run_bind_eq_done.mp run
  obtain ⟨⟨mount, rest⟩, _, found, _⟩ := run_bind_eq_done.mp run
  obtain ⟨_, rfl⟩ := run_ofExcept_eq_done known
  rw [run_lookup] at found
  split at found
  · next mount rest leads => exact ⟨mount, rest, leads⟩
  · nomatch found

/-- The descriptor that it gets leads to it. -/
theorem ensures_settle_below (opened : OpenFile DriverId) :
    Ensures (fun space => Below start driver good space) (settle opened)
      (fun descriptor space => ∃ table, table.get descriptor = .ok opened
        ∧ Below { start with descriptors := table } driver good space)
      (fun _ _ => True) := by
  have gives : Ensures (Below start driver good)
      (inDescriptors (DescriptorTable.alloc opened))
      (fun descriptor space => ∃ table, table.get descriptor = .ok opened
        ∧ Below { start with descriptors := table } driver good space)
      (fun _ _ => True) := by
    refine ensures_within fun space isBelow => ?_
    refine (meets_alloc space.descriptors opened).imp ?_
      (fun _ _ _ => trivial)
    intro descriptor table adds
    refine ⟨table, ?_, isBelow.descriptors table⟩
    rw [adds.get, if_pos rfl]
  exact ensures_onRefusal gives fun _ => keeps_true _

variable {next : δ → Prop}

theorem ensures_close_below
    (held : start.descriptors.get descriptor = .ok opened)
    (serves : Leaves σ good (.close opened.file) fun _ => next) :
    Ensures (Below start opened.driver good) (close descriptor)
      (fun _ => Below
        { start with descriptors := freed start.descriptors descriptor }
        opened.driver next)
      (fun _ _ => True) := by
  intro space isBelow
  have held' := held
  rw [← isBelow.descriptors_eq] at held'
  rw [run_close_of_held held', isBelow.descriptors_eq]
  exact (ensures_onRefusal (ensures_call_below serves)
    fun _ => keeps_true _) _ (isBelow.descriptors _)

theorem completes_close_below
    (held : start.descriptors.get descriptor = .ok opened)
    (serves : Answers σ good (.close opened.file) fun _ _ => True) :
    Completes (Below start opened.driver good) (close descriptor)
      (fun _ _ => True) := by
  intro space isBelow
  have held' := held
  rw [← isBelow.descriptors_eq] at held'
  obtain ⟨value, after, run, _⟩ := completes_call_below serves _
    (isBelow.descriptors (freed start.descriptors descriptor))
  refine ⟨value, after, ?_, trivial⟩
  rw [run_close_of_held held', isBelow.descriptors_eq, Action.run_onRefusal,
    run]

/-- A transfer that is done, and then a close that is done. -/
theorem completes_closing {before : NameSpace δ σ → Prop}
    {moved last : α → NameSpace δ σ → Prop}
    {transfer : Action (NameSpace δ σ) α}
    (transfers : Completes before transfer moved)
    (closes : ∀ value, Completes (moved value) (close descriptor)
      (fun _ => last value)) :
    Completes before (closing descriptor transfer) last := by
  intro space known
  obtain ⟨value, between, run, known⟩ := transfers space known
  obtain ⟨closed, after, runClose, known⟩ := closes value between known
  refine ⟨value, after, ?_, known⟩
  rw [closing, Action.run_bind, Action.run_attempt, run]
  simp only [Action.run_bind, Action.run_attempt, runClose]
  rfl

end

/-! ### The two loops -/

section

variable [Driver δ σ] {outlook : Outlook δ} (piecewise : Piecewise σ outlook)
  (start : NameSpace δ σ) {descriptor : Nat} {opened : OpenFile DriverId}
  (rest : String)

include piecewise

/-- What is written comes after what has been written. -/
theorem ensures_sendAll
    (held : start.descriptors.get descriptor = .ok opened)
    (data sent : Bytes) :
    Ensures
      (Below start opened.driver (piecewise.writing opened.file rest sent))
      (sendAll descriptor data)
      (fun _ => Below start opened.driver
        (piecewise.writing opened.file rest (sent ++ data)))
      (fun _ _ => True) := by
  fun_induction
    (sendAll descriptor data : Action (NameSpace δ σ) Unit)
    generalizing sent with
  | case1 data more _ ih =>
    have write : Ensures
        (Below start opened.driver (piecewise.writing opened.file rest sent))
        (write descriptor data)
        (fun count => Below start opened.driver (piecewise.writing opened.file
          rest (sent ++ data.take count)))
        (fun _ _ => True) := by
      refine ensures_bind ((completes_fileOf held).ensures _) fun found => ?_
      rintro space ⟨rfl, isBelow⟩
      exact ensures_call_below
        ((piecewise.write more).imp fun _ _ known => known.2) space isBelow
    refine ensures_bind write fun count => ?_
    -- If nothing was written the loop refuses, and nothing is left to show.
    split
    · next some =>
      have rest := ih count some (sent ++ data.take count)
      rwa [List.append_assoc, List.take_append_drop] at rest
    · exact fun _ _ => trivial
  | case2 data none =>
    cases Decidable.not_not.mp none
    rw [List.append_nil]
    exact fun _ known => known

/-- What is read comes after what has been read, until all of it has
been. -/
theorem completes_receiveAll
    (held : start.descriptors.get descriptor = .ok opened)
    {data : Bytes} (length : Nat) (before : Bytes) {cursor : Nat}
    (enough : data.length ≤ cursor + length) :
    Completes
      (Below start opened.driver
        (piecewise.reading opened.file rest data cursor))
      (receiveAll descriptor length before)
      (fun found space => found = before.reverse ++ data.drop cursor
        ∧ ∃ cursor, Below start opened.driver
          (piecewise.reading opened.file rest data cursor) space) := by
  fun_induction
    (receiveAll descriptor length before : Action (NameSpace δ σ) Bytes)
    generalizing cursor with
  | case1 length before more ih =>
    have receive : Completes
        (Below start opened.driver
          (piecewise.reading opened.file rest data cursor))
        (receive descriptor length)
        (fun found => Below start opened.driver fun state =>
          ∃ most, most ≠ 0 ∧ most ≤ length ∧ found = data.window cursor most
            ∧ piecewise.reading opened.file rest data
              (cursor + found.length) state) := by
      refine completes_bind (completes_fileOf held) fun found => ?_
      rintro space ⟨rfl, isBelow⟩
      exact completes_call_below (piecewise.read more) space isBelow
    refine completes_bind receive fun found => ?_
    intro space isBelow
    obtain ⟨_, _, _, most, some, few, window, _⟩ := isBelow.serves
    have isBelow : Below start opened.driver (piecewise.reading opened.file
        rest data (cursor + found.length)) space := by
      refine isBelow.imp ?_
      rintro _ ⟨_, _, _, _, reading⟩
      exact reading
    have amount := congrArg List.length window
    rw [Bytes.window, List.length_take, List.length_drop] at amount
    -- No byte comes only if none is left, and then this is the end.
    split
    · next moves =>
      obtain ⟨last, after, run, known, reading⟩ :=
        ih found moves (by omega) space isBelow
      refine ⟨last, after, run, ?_, reading⟩
      rw [known, List.reverse_append, List.reverse_reverse,
        List.append_assoc, window, Bytes.window_append_drop]
    · next none =>
      have atEnd : data.drop cursor = [] :=
        List.drop_eq_nil_of_le (by omega)
      refine ⟨_, _, rfl, ?_, _, isBelow⟩
      rw [atEnd, List.append_nil]
  | case2 length before none =>
    cases Decidable.not_not.mp none
    intro space isBelow
    have atEnd : data.drop cursor = [] := List.drop_eq_nil_of_le enough
    refine ⟨_, _, rfl, ?_, _, isBelow⟩
    rw [atEnd, List.append_nil]

end

/-! ### Whole files -/

/-- The driver that a path leads to. -/
def driverAt (space : NameSpace δ σ) (path : String) : Option δ :=
  match space.mounts.find (Path.resolve space.directory path) with
  | .ok (mount, _) => space.world.driver? mount.driver
  | .error _ => none

/-- The contents of the file at a path. -/
def contentAt (outlook : Outlook δ) (space : NameSpace δ σ)
    (path : String) : Option Bytes :=
  match space.mounts.find (Path.resolve space.directory path) with
  | .ok (mount, rest) => do
    outlook.contents (← space.world.driver? mount.driver) rest
  | .error _ => none

/-- How a file is read from a driver that keeps these bytes. All of them are
read, if the driver has a number for one more open file, and there can be a
buffer for as many bytes as it tells. -/
structure Rereads [Driver δ σ] (outlook : Outlook δ) (space : NameSpace δ σ)
    (path : String) (data : Bytes) (driver : δ) : Prop where
  whole : ¬ outlook.spent driver →
    data.length + outlook.surplus driver < sizeLimit →
    ∃ last, (readWhole path).run space = .done data last
  large : ¬ outlook.spent driver →
    sizeLimit ≤ data.length + outlook.surplus driver →
    (readWhole path).run space = .stopped .sizeOverflow
  spent : outlook.spent driver →
    (readWhole path).run space = .stopped .fileIdOverflow

/-- A whole file that has been written holds what was written, and can be
read at once. -/
def RoundTrips (σ : Type) [Driver δ σ] (outlook : Outlook δ) : Prop :=
  ∀ (space after : NameSpace δ σ) (path : String) (data : Bytes),
    (∀ driver, driverAt space path = some driver → outlook.sound driver) →
    (writeWhole path data).run space = .done () after →
    contentAt outlook after path = some data ∧ data.length < sizeLimit
      ∧ ∃ driver, driverAt after path = some driver
        ∧ Rereads outlook after path data driver

section

variable [Driver δ σ] {outlook : Outlook δ} (piecewise : Piecewise σ outlook)
  {space after : NameSpace δ σ} {path rest : String}
  {mount : Mount DriverId} {data : Bytes} {driver : δ} {surplus : Nat}

include piecewise

/-- A file that is opened to be written is empty. -/
theorem openToWrite_of_done {descriptor : Nat}
    (sound : ∀ driver, space.world.driver? mount.driver = some driver →
      outlook.sound driver)
    (leads : space.mounts.find (Path.resolve space.directory path)
      = .ok (mount, rest))
    (run : (openFile path "w" defaultPermissions).run space
      = .done descriptor after) :
    ∃ opened table, opened.driver = mount.driver
      ∧ table.get descriptor = .ok opened
      ∧ Below { space with descriptors := table } opened.driver
        (piecewise.writing opened.file rest []) after := by
  rw [openFile_eq] at run
  obtain ⟨opened, between, begun, settled⟩ := run_bind_eq_done.mp run
  have known : OpenFlags.ofMode "w" = .ok wholeFlags := rfl
  rw [run_begin_of_leads known leads] at begun
  obtain ⟨file, _, called, last⟩ := run_bind_eq_done.mp begun
  cases last
  obtain ⟨site, left, found, serves, rfl⟩ := run_call_eq_done called
  have isThere := driver?_of_site? found
  have holds : outlook.sound site.driver := sound site.driver isThere
  have writes := (piecewise.openToWrite rest defaultPermissions).apply holds
  rw [serves] at writes
  -- The driver has the file now, which has no descriptor yet.
  have isBelow : Below space mount.driver (piecewise.writing file rest [])
      { routed path rest mount space with
        world := World.putSite mount.driver left
          (routed path rest mount space).world } :=
    ⟨rfl, serves_putSite found writes⟩
  have meets :=
    (ensures_settle_below ⟨file, mount.driver, mount.path⟩).apply isBelow
  rw [settled] at meets
  obtain ⟨table, held, isBelow⟩ := meets
  exact ⟨_, table, rfl, held, isBelow⟩

/-- Where a path leads there is a driver that keeps these contents in a file,
and the file can get a descriptor. -/
structure Kept (space : NameSpace δ σ) (path : String)
    (mount : Mount DriverId) (rest : String) (data : Bytes) (driver : δ) :
    Prop where
  leads : space.mounts.find (Path.resolve space.directory path)
    = .ok (mount, rest)
  room (opened : OpenFile DriverId) : ∃ number table,
    (DescriptorTable.alloc opened).run space.descriptors
      = .done number table
  serves : Serves (· = driver) space.world mount.driver
  keeps : piecewise.keeping rest data driver

/-- What has been written is kept, and the descriptor is free again. -/
theorem kept_of_done
    (sound : ∀ driver, space.world.driver? mount.driver = some driver →
      outlook.sound driver)
    (leads : space.mounts.find (Path.resolve space.directory path)
      = .ok (mount, rest))
    (run : (writeWhole path data).run space = .done () after) :
    ∃ driver, Kept piecewise after path mount rest data driver := by
  obtain ⟨descriptor, between, opens, run⟩ := run_bind_eq_done.mp run
  obtain ⟨opened, table, same, held, isBelow⟩ :=
    openToWrite_of_done piecewise sound leads opens
  have transfers := ensures_sendAll piecewise
    { space with descriptors := table } rest held data []
  have meets := (ensures_closing transfers
    (fun _ => ensures_close_below held piecewise.closeWritten)
    (fun _ => keeps_true _)).apply isBelow
  rw [run, same] at meets
  obtain ⟨unchanged, installed, isThere, device, keeps⟩ := meets
  refine ⟨installed.driver, ?_, ?_, ⟨installed, isThere, device, rfl⟩, keeps⟩
  · rw [unchanged]
    exact leads
  · rw [unchanged]
    exact exists_alloc_of_freed held

/-- A file that is kept can be opened to be read, if there is a number for
it. -/
theorem openToRead_of_kept
    (kept : Kept piecewise space path mount rest data driver)
    (more : ¬ outlook.spent driver) :
    ∃ descriptor opened table after,
      (openFile path "r" defaultPermissions).run space
          = .done descriptor after
        ∧ opened.driver = mount.driver
        ∧ table.get descriptor = .ok opened
        ∧ Below { space with descriptors := table } opened.driver
          (piecewise.begun opened.file rest data (outlook.surplus driver))
          after := by
  have known : OpenFlags.ofMode "r" = .ok .read := rfl
  have serves : Serves (· = driver) (routed path rest mount space).world
      mount.driver := kept.serves
  obtain ⟨site, found, rfl⟩ := serves.site?
  obtain ⟨file, left, opens, begun⟩ :=
    piecewise.openToRead defaultPermissions site ⟨kept.keeps, more, rfl⟩
  obtain ⟨number, table, alloc⟩ := kept.room ⟨file, mount.driver, mount.path⟩
  have adds := meets_alloc space.descriptors ⟨file, mount.driver, mount.path⟩
  rw [alloc] at adds
  have isThere := serves_putSite found begun
  rw [openFile_eq, Action.run_bind, run_begin_of_leads known kept.leads,
    Action.run_bind, run_call, found]
  -- There is a descriptor, so the file stays open.
  simp only [opens, Action.run_pure]
  refine ⟨number, ⟨file, mount.driver, mount.path⟩, table, _,
    run_settle_of_alloc alloc, rfl, ?_, rfl, isThere⟩
  rw [adds.get, if_pos rfl]

/-- The driver stops if there is none. -/
theorem openFile_of_spent
    (kept : Kept piecewise space path mount rest data driver)
    (spent : outlook.spent driver) :
    (openFile path "r" defaultPermissions).run space
      = .stopped .fileIdOverflow := by
  have known : OpenFlags.ofMode "r" = .ok .read := rfl
  have serves : Serves (· = driver) (routed path rest mount space).world
      mount.driver := kept.serves
  obtain ⟨site, found, rfl⟩ := serves.site?
  have stops :=
    piecewise.openSpent defaultPermissions site kept.keeps spent
  rw [openFile_eq, Action.run_bind, run_begin_of_leads known kept.leads,
    Action.run_bind, run_call, found]
  simp only [stops]

section

variable (start : NameSpace δ σ) {descriptor : Nat}
  {opened : OpenFile DriverId} (same : opened.driver = mount.driver)
  (leads : start.mounts.find (Path.resolve start.directory path)
    = .ok (mount, rest))

include same leads

/-- The size that is told of a file that has been opened. -/
theorem completes_stat (data : Bytes) (surplus : Nat) :
    Completes
      (Below start opened.driver
        (piecewise.begun opened.file rest data surplus))
      (stat path)
      (fun found space => found.size = data.length + surplus
        ∧ Below start opened.driver
          (piecewise.reading opened.file rest data 0) space) := by
  refine completes_bind (completes_lookup leads) fun found => ?_
  rintro space ⟨rfl, isBelow⟩
  rw [same] at isBelow ⊢
  obtain ⟨found, last, run, isBelow⟩ :=
    completes_call_below piecewise.stat space isBelow
  obtain ⟨_, _, _, told, _⟩ := isBelow.serves
  exact ⟨found, last, run, congrArg Stat.size told,
    isBelow.imp fun _ known => known.2⟩

/-- What is read of a file, if there can be a buffer for what is told. -/
theorem completes_receiveFile
    (held : start.descriptors.get descriptor = .ok opened) (data : Bytes)
    (fits : data.length + surplus < sizeLimit) :
    Completes
      (Below start opened.driver
        (piecewise.begun opened.file rest data surplus))
      (receiveFile descriptor path)
      (fun found space => found = data
        ∧ ∃ cursor, Below start opened.driver
          (piecewise.reading opened.file rest data cursor) space) := by
  refine completes_bind (completes_stat piecewise start same leads data
    surplus) fun found => ?_
  rintro space ⟨size, isBelow⟩
  rw [size, Action.run_bind, Action.run_reserve fits]
  have enough : data.length ≤ 0 + (data.length + surplus) := by omega
  exact completes_receiveAll piecewise start rest held _ [] enough space
    isBelow

/-- Otherwise nothing is read. -/
theorem receiveFile_of_large (descriptor : Nat)
    (large : sizeLimit ≤ data.length + surplus)
    (isBelow : Below start opened.driver
      (piecewise.begun opened.file rest data surplus) space) :
    (receiveFile descriptor path).run space = .stopped .sizeOverflow := by
  obtain ⟨found, between, run, size, _⟩ :=
    completes_stat piecewise start same leads data surplus space isBelow
  rw [receiveFile, Action.run_bind, run]
  simp only [Action.run_bind, size, Action.run_reserve_of_le large]

end

/-- A file that is kept is read as a whole. -/
theorem readWhole_of_kept
    (kept : Kept piecewise space path mount rest data driver)
    (more : ¬ outlook.spent driver)
    (fits : data.length + outlook.surplus driver < sizeLimit) :
    ∃ last, (readWhole path).run space = .done data last := by
  obtain ⟨descriptor, opened, table, after, opens, same, held, isBelow⟩ :=
    openToRead_of_kept piecewise kept more
  have receives := completes_receiveFile piecewise
    { space with descriptors := table } same kept.leads held data fits
  have closes (found : Bytes) : Completes
      (fun between : NameSpace δ σ => found = data ∧ ∃ cursor,
        Below { space with descriptors := table } opened.driver
          (piecewise.reading opened.file rest data cursor) between)
      (close descriptor) (fun _ _ => found = data) := by
    rintro between ⟨rfl, cursor, isBelow⟩
    obtain ⟨value, last, run, _⟩ :=
      completes_close_below held piecewise.closeRead between isBelow
    exact ⟨value, last, run, rfl⟩
  obtain ⟨found, last, run, rfl⟩ :=
    completes_closing receives closes after isBelow
  refine ⟨last, ?_⟩
  rw [readWhole, Action.run_bind, opens]
  exact run

/-- There is no buffer for more bytes than a byte string can have. -/
theorem readWhole_of_large
    (kept : Kept piecewise space path mount rest data driver)
    (more : ¬ outlook.spent driver)
    (large : sizeLimit ≤ data.length + outlook.surplus driver) :
    (readWhole path).run space = .stopped .sizeOverflow := by
  obtain ⟨descriptor, opened, table, after, opens, same, _, isBelow⟩ :=
    openToRead_of_kept piecewise kept more
  have stops := receiveFile_of_large piecewise
    { space with descriptors := table } same kept.leads descriptor large
    isBelow
  rw [readWhole, Action.run_bind, opens]
  simp only [closing, Action.run_bind, Action.run_attempt, stops]

theorem readWhole_of_spent
    (kept : Kept piecewise space path mount rest data driver)
    (spent : outlook.spent driver) :
    (readWhole path).run space = .stopped .fileIdOverflow := by
  rw [readWhole, Action.run_bind, openFile_of_spent piecewise kept spent]

end

/-- The round trip of whole files. -/
theorem roundTrips [Driver δ σ] {outlook : Outlook δ}
    (piecewise : Piecewise σ outlook) : RoundTrips σ outlook := by
  intro space after path data sound run
  -- The path has led somewhere, and still leads there.
  obtain ⟨_, _, opens, _⟩ := run_bind_eq_done.mp run
  obtain ⟨mount, rest, leads⟩ := leads_of_done opens
  rw [driverAt, leads] at sound
  obtain ⟨driver, kept⟩ := kept_of_done piecewise sound leads run
  have found := kept.serves.driver?_eq
  rw [contentAt, driverAt, kept.leads]
  simp only [found]
  refine ⟨piecewise.contents kept.keeps, piecewise.short kept.keeps, driver,
    rfl, ?_⟩
  exact ⟨readWhole_of_kept piecewise kept, readWhole_of_large piecewise kept,
    readWhole_of_spent piecewise kept⟩

end MountSpace.Proofs.NameSpaces
