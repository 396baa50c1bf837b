import MountSpace.Backend
import MountSpace.Device.RamDisk
import MountSpace.Proofs.NameSpaces.Courses
import MountSpace.Proofs.NameSpaces.Opening

/-!
# `MountSpace.Proofs.NameSpaces.ClosedFiles`: whole files, opened and closed

To read or write a whole file is to open it, to move its bytes, and to close
it. Drivers may refuse any of that, and move as few bytes as they like.

* `ensures_openFile_course`: a file that was opened has a descriptor, or has
  been closed again.
* `ensures_sendAll_moved`, `ensures_receiveFile_moved`: moving bytes opens
  nothing and closes nothing, and ends with the first thing that goes wrong.
* `ensures_closing_course`: the file is closed however the transfer ends, and
  what went wrong first is told.
* `closes_what_it_opened`: afterwards all descriptors are as they were, and
  one file has been closed if one was opened, and none otherwise.
-/

set_option autoImplicit false

namespace MountSpace.Proofs.NameSpaces

open Effects
open MountSpace.NameSpace
open Volumes (Passing)

variable {δ σ α : Type}

/-! ### What goes wrong, what is opened, what is closed -/

/-- The cause of a refusal. -/
def fault? : Except Fault α → Option Fault
  | .ok _ => none
  | .error fault => some fault

/-- What is wrong with an exchange of a transfer: it is refused, or nothing is
written. -/
def failure? : Exchange → Option Fault
  | ⟨_, .write _ _ _, .ok 0⟩ => some .ioError
  | ⟨_, _, answer⟩ => fault? answer

/-- The file that a driver has opened. -/
def opened? : Exchange → Option (DriverId × FileId)
  | ⟨driver, .openFile _ _ _, .ok file⟩ => some (driver, file)
  | _ => none

/-- The file that a driver was asked to close. -/
def closed? : Exchange → Option (DriverId × FileId)
  | ⟨driver, .close file, _⟩ => some (driver, file)
  | _ => none

/-- Nothing but transfers and questions. -/
def Quiet (exchanges : List Exchange) : Prop :=
  ∀ exchange ∈ exchanges, Passing exchange.request

theorem failure?_error (driver : DriverId) (request : Request α)
    (fault : Fault) :
    failure? ⟨driver, request, .error fault⟩ = some fault := by
  cases request <;> rfl

theorem quiet_snoc {exchanges : List Exchange} {driver : DriverId}
    {request : Request α} (quiet : Quiet exchanges)
    (passing : Passing request) (answer : Except Fault α) :
    Quiet (exchanges ++ [⟨driver, request, answer⟩]) := by
  intro exchange member
  rcases List.mem_append.mp member with before | last
  · exact quiet exchange before
  · rw [List.mem_singleton.mp last]
    exact passing

theorem Quiet.opens_nothing {exchanges : List Exchange}
    (quiet : Quiet exchanges) : exchanges.filterMap opened? = [] := by
  refine List.filterMap_eq_nil_iff.mpr fun exchange member => ?_
  have passing := quiet exchange member
  obtain ⟨driver, request, answer⟩ := exchange
  cases request with
  | openFile => exact passing.elim
  | _ => rfl

theorem Quiet.closes_nothing {exchanges : List Exchange}
    (quiet : Quiet exchanges) : exchanges.filterMap closed? = [] := by
  refine List.filterMap_eq_nil_iff.mpr fun exchange member => ?_
  have passing := quiet exchange member
  obtain ⟨driver, request, answer⟩ := exchange
  cases request with
  | close => exact passing.elim
  | _ => rfl

/-! ### Moving bytes -/

variable [Driver δ σ]

section

variable {first : NameSpace δ σ} {opened : OpenFile DriverId}
  {descriptor : Nat}

/-- Bytes have been moved, as far as nothing went wrong. -/
def Moved (first : NameSpace δ σ) (wrong : Option Fault)
    (space : NameSpace δ σ) : Prop :=
  ∃ moves, Along first moves space ∧ Quiet moves
    ∧ moves.findSome? failure? = wrong

theorem Moved.start (first : NameSpace δ σ) : Moved first none first :=
  ⟨[], .start first, nofun, rfl⟩

/-- One more request, after which something may be wrong. -/
theorem ensures_call_moved (driver : DriverId) {request : Request α}
    (passing : Passing request) :
    Ensures (Moved first none) (call driver request)
      (fun value => Moved first (failure? ⟨driver, request, .ok value⟩))
      (fun fault => Moved first (some fault)) := by
  rintro space ⟨moves, along, quiet, well⟩
  have wrong : ∀ last : Exchange,
      (moves ++ [last]).findSome? failure? = failure? last := by
    intro last
    rw [List.findSome?_append, well, List.findSome?_singleton, Option.none_or]
  refine ((ensures_call_along driver request).apply along).imp
    (fun value space along => ?_) (fun fault space along => ?_)
  · exact ⟨_, along, quiet_snoc quiet passing _, wrong _⟩
  · refine ⟨_, along, quiet_snoc quiet passing _, ?_⟩
    rw [wrong, failure?_error]

/-- The descriptor leads to the file that was opened. -/
theorem ensures_fileOf_moved
    (held : first.descriptors.get descriptor = .ok opened)
    (refused : Fault → NameSpace δ σ → Prop) :
    Ensures (Moved first none) (fileOf descriptor)
      (fun found space => found = opened ∧ Moved first none space)
      refused := by
  rintro _ ⟨moves, ⟨world, rfl, course⟩, rest⟩
  have same : ({ first with world } : NameSpace δ σ).descriptors.get
      descriptor = .ok opened := held
  rw [run_fileOf same]
  exact ⟨rfl, moves, ⟨world, rfl, course⟩, rest⟩

/-- To write none of some bytes is to fail. -/
theorem ensures_write_moved
    (held : first.descriptors.get descriptor = .ok opened) (data : Bytes) :
    Ensures (Moved first none) (write descriptor data)
      (fun count => Moved first (if count = 0 then some .ioError else none))
      (fun fault => Moved first (some fault)) := by
  refine ensures_bind (ensures_fileOf_moved held _) ?_
  rintro file space ⟨rfl, moved⟩
  have passing : Passing (.write file.file data none) := trivial
  refine (ensures_call_moved _ passing).apply moved |>.imp
    (fun count space moved => ?_) (fun _ _ moved => moved)
  cases count with
  | zero | succ count => exact moved

theorem ensures_sendAll_moved
    (held : first.descriptors.get descriptor = .ok opened) (data : Bytes) :
    Ensures (Moved first none) (sendAll descriptor data)
      (fun _ => Moved first none) (fun fault => Moved first (some fault)) := by
  fun_induction
    (sendAll descriptor data : Action (NameSpace δ σ) Unit) with
  | case1 data more _ ih =>
    refine ensures_bind (ensures_write_moved held _) fun count => ?_
    by_cases none : count = 0
    · rw [if_pos none, dif_neg (Decidable.not_not.mpr none)]
      exact fun _ moved => moved
    · rw [if_neg none, dif_pos none]
      exact ih count none
  | case2 data none => exact fun _ moved => moved

theorem ensures_receive_moved
    (held : first.descriptors.get descriptor = .ok opened) (length : Nat) :
    Ensures (Moved first none) (receive descriptor length)
      (fun _ => Moved first none) (fun fault => Moved first (some fault)) := by
  refine ensures_bind (ensures_fileOf_moved held _) ?_
  rintro file space ⟨rfl, moved⟩
  have passing : Passing (.read file.file length none) := trivial
  exact (ensures_call_moved _ passing).apply moved

theorem ensures_receiveAll_moved
    (held : first.descriptors.get descriptor = .ok opened) (length : Nat)
    (before : Bytes) :
    Ensures (Moved first none) (receiveAll descriptor length before)
      (fun _ => Moved first none) (fun fault => Moved first (some fault)) := by
  fun_induction
    (receiveAll descriptor length before : Action (NameSpace δ σ) Bytes) with
  | case1 length before more ih =>
    refine ensures_bind (ensures_receive_moved held _) fun found => ?_
    split
    · next some => exact ih found some
    · exact fun _ moved => moved
  | case2 length before none => exact fun _ moved => moved

/-- A path that has led to a volume once still leads there. -/
theorem ensures_receiveFile_moved
    (held : first.descriptors.get descriptor = .ok opened) {path : String}
    {found : Mount DriverId × String}
    (leads : first.mounts.find (Path.resolve first.directory path)
      = .ok found) :
    Ensures (Moved first none) (receiveFile descriptor path)
      (fun _ => Moved first none) (fun fault => Moved first (some fault)) := by
  have looks : Ensures (Moved first none) (lookup path)
      (fun _ => Moved first none) (fun fault => Moved first (some fault)) := by
    rintro space ⟨moves, along, rest⟩
    refine ((ensures_lookup_along path).apply along).imp
      (fun _ _ looked => ⟨moves, looked.2, rest⟩) (fun fault _ looked => ?_)
    cases leads.symm.trans looked.1
  have tells : Ensures (Moved first none) (stat path)
      (fun _ => Moved first none) (fun fault => Moved first (some fault)) :=
    ensures_bind looks fun _ => ensures_call_moved _ trivial
  refine ensures_bind tells fun found => ?_
  exact ensures_bind (ensures_reserve _ found.size)
    fun _ => ensures_receiveAll_moved held _ _

/-! ### Closing -/

/-- Bytes have been moved, and then the file has been closed and its
descriptor freed. What went wrong first is what is wrong. -/
def Finished (first : NameSpace δ σ) (opened : OpenFile DriverId)
    (descriptor : Nat) (wrong : Option Fault) (space : NameSpace δ σ) :
    Prop :=
  ∃ moves answer, Drops first.descriptors descriptor space.descriptors
    ∧ Course first.world
      (moves ++ [⟨opened.driver, .close opened.file, answer⟩]) space.world
    ∧ Quiet moves
    ∧ (moves.findSome? failure?).or (fault? answer) = wrong

/-- The descriptor is freed whether its driver can close the file or not. -/
theorem ensures_close_course
    (held : first.descriptors.get descriptor = .ok opened)
    (wrong : Option Fault) :
    Ensures (Moved first wrong) (close descriptor)
      (fun _ => Finished first opened descriptor wrong)
      (fun fault => Finished first opened descriptor
        (wrong.or (some fault))) := by
  rintro _ ⟨moves, ⟨world, rfl, course⟩, quiet, rfl⟩
  have drops : Drops first.descriptors descriptor
      (freed first.descriptors descriptor) := by
    have meets := meets_close first.descriptors descriptor
    rw [run_close_of_ok held] at meets
    exact meets.2
  have same : ({ first with world } : NameSpace δ σ).descriptors.get
      descriptor = .ok opened := held
  rw [run_close_of_held same]
  -- The driver is asked when the descriptor is free already.
  have along : Along
      { first with descriptors := freed first.descriptors descriptor } moves
      { first with world, descriptors := freed first.descriptors descriptor } :=
    ⟨world, rfl, course⟩
  refine (ensures_onRefusal (ensures_call_along opened.driver
    (.close opened.file)) fun fault =>
      ensures_note (keeps_note_along _)).apply along |>.imp ?_ ?_
  · rintro value _ ⟨world, rfl, course⟩
    exact ⟨moves, .ok value, drops, course, quiet, Option.or_none⟩
  · rintro fault _ ⟨world, rfl, course⟩
    exact ⟨moves, .error fault, drops, course, quiet, rfl⟩

/-- However the transfer ends, the file is closed, and what went wrong first
is told. -/
theorem ensures_closing_course
    (held : first.descriptors.get descriptor = .ok opened)
    {transfer : Action (NameSpace δ σ) α}
    (transfers : Ensures (Moved first none) transfer
      (fun _ => Moved first none) (fun fault => Moved first (some fault))) :
    Ensures (Moved first none) (closing descriptor transfer)
      (fun _ => Finished first opened descriptor none)
      (fun fault => Finished first opened descriptor (some fault)) :=
  ensures_closing transfers
    (fun _ => ensures_close_course held none)
    (fun fault => ensures_close_course held (some fault))

end

/-! ### Opening -/

/-- A driver may have been asked to open a file. These are open now, and
none has been closed. -/
def Asked (first : NameSpace δ σ) (files : List (DriverId × FileId))
    (space : NameSpace δ σ) : Prop :=
  ∃ asked, Along first asked space ∧ asked.filterMap closed? = []
    ∧ asked.filterMap opened? = files

/-- All descriptors are as before. What has been opened has been closed, and
that is one file at most. -/
structure Restored (first : NameSpace δ σ) (exchanges : List Exchange)
    (space : NameSpace δ σ) : Prop where
  course : Course first.world exchanges space.world
  descriptors (descriptor : Nat) :
    space.descriptors.get descriptor = first.descriptors.get descriptor
  closes : exchanges.filterMap closed? = exchanges.filterMap opened?
  once : (exchanges.filterMap opened?).length ≤ 1

/-- A file has been opened and has a descriptor. -/
structure Obtained (first : NameSpace δ σ) (path : String) (descriptor : Nat)
    (opened : OpenFile DriverId) (space : NameSpace δ σ) : Prop where
  leads : ∃ found, first.mounts.find (Path.resolve first.directory path)
    = .ok found
  adds : Adds first.descriptors opened descriptor space.descriptors
  asked : Asked { first with descriptors := space.descriptors }
    [(opened.driver, opened.file)] space

section

variable {first space : NameSpace δ σ} {opened : OpenFile DriverId}

theorem Asked.start (first : NameSpace δ σ) : Asked first [] first :=
  ⟨[], .start first, rfl, rfl⟩

/-- Where nothing was opened nothing is to be closed. -/
theorem Asked.restored (asked : Asked first [] space) :
    ∃ exchanges, Restored first exchanges space := by
  obtain ⟨exchanges, ⟨world, rfl, course⟩, closes, opens⟩ := asked
  refine ⟨exchanges, course, fun _ => rfl, closes.trans opens.symm, ?_⟩
  rw [opens]
  exact Nat.zero_le 1

/-- A driver is asked once. -/
theorem ensures_begin_course (path mode : String) (permissions : UInt32) :
    Ensures (Asked first []) (begin path mode permissions)
      (fun opened space => (∃ found, first.mounts.find
          (Path.resolve first.directory path) = .ok found)
        ∧ Asked first [(opened.driver, opened.file)] space)
      (fun _ => Asked first []) := by
  refine ensures_bind (keeps_ofExcept (OpenFlags.ofMode mode)) fun flags => ?_
  have looks : Ensures (Asked first []) (lookup path)
      (fun _ space => (∃ found, first.mounts.find
          (Path.resolve first.directory path) = .ok found)
        ∧ Asked first [] space) (fun _ => Asked first []) := by
    rintro space ⟨asked, along, rest⟩
    exact ((ensures_lookup_along path).apply along).imp
      (fun found _ looked => ⟨⟨found, looked.1⟩, asked, looked.2, rest⟩)
      (fun _ _ looked => ⟨asked, looked.2, rest⟩)
  refine ensures_bind looks ?_
  rintro ⟨mount, rest⟩ space ⟨leads, asked, along, closes, opens⟩
  have none : ∀ answer : Except Fault FileId,
      (asked ++ [⟨mount.driver, .openFile rest flags permissions,
        answer⟩] : List Exchange).filterMap closed? = [] := by
    intro answer
    rw [List.filterMap_append, closes]
    rfl
  have asks : Ensures (Along first asked)
      (call mount.driver (.openFile rest flags permissions))
      (fun file => Asked first [(mount.driver, file)])
      (fun _ => Asked first []) :=
    (ensures_call_along _ _).imp (fun _ along => along)
      (fun file _ along => ⟨_, along, none (.ok file), by
        rw [List.filterMap_append, opens]; rfl⟩)
      (fun fault _ along => ⟨_, along, none (.error fault), by
        rw [List.filterMap_append, opens]; rfl⟩)
  refine ensures_bind asks ?_ space along
  exact fun file space asked => ⟨leads, asked⟩

/-- The table of descriptors is another one, and no driver sees it. -/
theorem Asked.descriptors {files : List (DriverId × FileId)}
    (asked : Asked first files space)
    (descriptors : DescriptorTable DriverId) :
    Asked { first with descriptors } files { space with descriptors } := by
  obtain ⟨exchanges, ⟨world, rfl, course⟩, rest⟩ := asked
  exact ⟨exchanges, ⟨world, rfl, course⟩, rest⟩

/-- A file is open that no descriptor leads to. A search for a descriptor may
have made room in the table. -/
def Adrift (first : NameSpace δ σ) (opened : OpenFile DriverId)
    (space : NameSpace δ σ) : Prop :=
  (∀ descriptor, space.descriptors.get descriptor
      = first.descriptors.get descriptor)
    ∧ Asked { first with descriptors := space.descriptors }
      [(opened.driver, opened.file)] space

/-- Its driver is asked to close it. -/
theorem ensures_withdraw_course :
    Ensures (Adrift first opened) (call opened.driver (.close opened.file))
      (fun _ after => ∃ exchanges, Restored first exchanges after)
      (fun _ after => ∃ exchanges, Restored first exchanges after) := by
  rintro space ⟨same, asked, along, closes, opens⟩
  have restored : ∀ (answer : Except Fault Unit) (after : NameSpace δ σ),
      Along { first with descriptors := space.descriptors }
        (asked ++ [⟨opened.driver, .close opened.file, answer⟩]) after →
      ∃ exchanges, Restored first exchanges after := by
    rintro answer _ ⟨world, rfl, course⟩
    refine ⟨_, course, same, ?_, ?_⟩
    · rw [List.filterMap_append, List.filterMap_append, closes, opens]
      rfl
    · rw [List.filterMap_append, opens]
      exact Nat.le_refl 1
  exact ((ensures_call_along _ _).apply along).imp
    (fun value after => restored (.ok value) after)
    (fun fault after => restored (.error fault) after)

theorem keeps_note_restored (event : Event) :
    Keeps (fun space => ∃ exchanges, Restored first exchanges space)
      (note event) := by
  rintro space ⟨exchanges, restored⟩
  exact ⟨exchanges, { restored with course := restored.course.note event }⟩

/-- A file that gets no descriptor is closed again. -/
theorem ensures_settle_course {path : String}
    (leads : ∃ found, first.mounts.find
      (Path.resolve first.directory path) = .ok found) :
    Ensures (Adrift first opened) (settle opened)
      (fun descriptor space => Obtained first path descriptor opened space)
      (fun _ space => ∃ exchanges, Restored first exchanges space) := by
  have gives : Ensures (Adrift first opened)
      (inDescriptors (DescriptorTable.alloc opened))
      (fun descriptor space => Obtained first path descriptor opened space)
      (fun _ => Adrift first opened) := by
    refine ensures_within fun space ⟨same, asked⟩ => ?_
    refine (meets_alloc space.descriptors opened).imp ?_ ?_
    · intro descriptor table adds
      refine ⟨leads, ⟨(same descriptor).symm.trans adds.free, fun other => ?_⟩,
        asked.descriptors table⟩
      rw [adds.get, same]
    · rintro fault table ⟨_, _, still⟩
      exact ⟨fun other => (still other).trans (same other),
        asked.descriptors table⟩
  exact ensures_settle_of gives ensures_withdraw_course keeps_note_restored

theorem ensures_openFile_course (path mode : String) (permissions : UInt32) :
    Ensures (Asked first []) (openFile path mode permissions)
      (fun descriptor space => ∃ opened,
        Obtained first path descriptor opened space)
      (fun _ space => ∃ exchanges, Restored first exchanges space) := by
  rw [openFile_eq]
  have begins := (ensures_begin_course path mode permissions).refusing
    fun _ _ (asked : Asked first [] _) => asked.restored
  refine ensures_bind begins fun opened => ?_
  rintro space ⟨leads, asked⟩
  have adrift : Adrift first opened space := by
    obtain ⟨exchanges, ⟨world, rfl, course⟩, rest⟩ := asked
    exact ⟨fun _ => rfl, exchanges, ⟨world, rfl, course⟩, rest⟩
  exact ((ensures_settle_course leads).apply adrift).imp
    (fun _ _ opens => ⟨opened, opens⟩) (fun _ _ restored => restored)

/-! ### Whole files -/

/-- Commands that open a file, move its bytes and close it. -/
def MovesWhole : Command δ α → Prop
  | .readWhole _ | .writeWhole _ _ => True
  | _ => False

/-- What such a command begins with. -/
theorem opening_of_whole {command : Command δ α}
    (whole : MovesWhole command) :
    ∃ (opening : Opening) (transfer : Nat → Action (NameSpace δ σ) α),
      opening? command = some opening
      ∧ NameSpace.run command
        = openFile opening.path opening.mode opening.permissions
          >>= fun descriptor => closing descriptor (transfer descriptor) := by
  cases command with
  | readWhole path | writeWhole path data => exact ⟨_, _, rfl, rfl⟩
  | _ => exact whole.elim

/-- A file that has a descriptor is closed in the end. -/
theorem meets_finished {between : NameSpace δ σ} {descriptor : Nat}
    {command : Command δ α} (whole : MovesWhole command) {opening : Opening}
    (is : opening? command = some opening)
    (run : (openFile opening.path opening.mode opening.permissions).run space
      = .done descriptor between)
    (opens : Obtained space opening.path descriptor opened between) :
    Meets (fun _ => Finished between opened descriptor none)
      (fun fault => Finished between opened descriptor (some fault))
      ((NameSpace.run command).run space) := by
  have held : between.descriptors.get descriptor = .ok opened := by
    rw [opens.adds.get, if_pos rfl]
  cases command with
  | readWhole path =>
    cases is
    obtain ⟨found, leads⟩ := opens.leads
    have leads : between.mounts.find (Path.resolve between.directory path)
        = .ok found := by
      obtain ⟨_, ⟨world, same, _⟩, _⟩ := opens.asked
      rw [same]
      exact leads
    show Meets _ _ ((readWhole path).run space)
    rw [readWhole, Action.run_bind, run]
    exact (ensures_closing_course held
      (ensures_receiveFile_moved held leads)).apply (.start between)
  | writeWhole path data =>
    cases is
    show Meets _ _ ((writeWhole path data).run space)
    rw [writeWhole, Action.run_bind, run]
    exact (ensures_closing_course held
      (ensures_sendAll_moved held data)).apply (.start between)
  | _ => exact whole.elim

/-- From opening a file to closing it, it is the one file that is opened, and
the one that is closed. -/
theorem restored_of_finished {between after : NameSpace δ σ}
    {descriptor : Nat} {path : String} {wrong : Option Fault}
    (opens : Obtained space path descriptor opened between)
    (finished : Finished between opened descriptor wrong after) :
    ∃ early moves answer,
      Restored space
        (early ++ moves ++ [⟨opened.driver, .close opened.file, answer⟩]) after
      ∧ Course space.world early between.world
      ∧ Quiet moves
      ∧ (moves.findSome? failure?).or (fault? answer) = wrong := by
  obtain ⟨early, ⟨world, same, course⟩, noneClosed, oneOpened⟩ := opens.asked
  obtain ⟨moves, answer, drops, rest, quiet, told⟩ := finished
  have began : Course space.world early between.world := by
    rw [same]
    exact course
  refine ⟨early, moves, answer, ⟨?_, fun other => ?_, ?_, ?_⟩, began, quiet,
    told⟩
  · rw [List.append_assoc]
    exact began.append rest
  · rw [drops.get, opens.adds.get]
    by_cases here : other = descriptor
    · rw [if_pos here, here, opens.adds.free]
    · rw [if_neg here, if_neg here]
  · simp only [List.filterMap_append, noneClosed, oneOpened,
      quiet.opens_nothing, quiet.closes_nothing]
    rfl
  · simp only [List.filterMap_append, oneOpened, quiet.opens_nothing]
    exact Nat.le_refl 1

/-- Whatever drivers do, when a whole file has been read or written all
descriptors are as before. If a driver has opened the file it has been asked
to close it, once, be it that there was no descriptor; and no other file has
been opened or closed. If there was a descriptor, what is told is what went
wrong first with the transfer, or else with closing the file, or else
nothing. What a driver has been asked is what it has in its log, if it keeps
one. -/
theorem closes_what_it_opened {command : Command δ α}
    (whole : MovesWhole command) {after : NameSpace δ σ}
    (left : ((NameSpace.run command).run space).after? = some after) :
    ∃ exchanges, Restored space exchanges after
      ∧ (∀ {ι : Type} (entry : Entry ι) (log : δ → List ι),
        Logs σ entry log → ∀ driver known,
          Serves (log · = known) space.world driver →
            Serves (log · = known ++ entries entry driver exchanges)
              after.world driver)
      ∧ ∀ opening descriptor between, opening? command = some opening →
        (openFile opening.path opening.mode opening.permissions).run space
          = .done descriptor between →
        ∃ opened early moves answer reply,
          between.descriptors.get descriptor = .ok opened
          ∧ Course space.world early between.world
          ∧ exchanges = early ++ moves
            ++ [⟨opened.driver, .close opened.file, answer⟩]
          ∧ Quiet moves
          ∧ ((NameSpace.run command).run space).reply? = some reply
          ∧ fault? reply
            = (moves.findSome? failure?).or (fault? answer) := by
  obtain ⟨opening, transfer, is, runs⟩ := opening_of_whole (σ := σ) whole
  have opens := (ensures_openFile_course opening.path opening.mode
    opening.permissions).apply (Asked.start space)
  cases run : (openFile opening.path opening.mode
      opening.permissions).run space with
  | done descriptor between =>
    rw [run] at opens
    obtain ⟨opened, opens⟩ := opens
    have held : between.descriptors.get descriptor = .ok opened := by
      rw [opens.adds.get, if_pos rfl]
    have meets := meets_finished whole is run opens
    obtain ⟨reply, answered, finished⟩ : ∃ reply,
        ((NameSpace.run command).run space).reply? = some reply
          ∧ Finished between opened descriptor (fault? reply) after := by
      cases ending : (NameSpace.run command).run space with
      | done value last =>
        rw [ending] at meets left
        cases left
        exact ⟨.ok value, rfl, meets⟩
      | refused fault last =>
        rw [ending] at meets left
        cases left
        exact ⟨.error fault, rfl, meets⟩
      | stopped trap =>
        rw [ending] at left
        nomatch left
    obtain ⟨early, moves, answer, restored, began, quiet, told⟩ :=
      restored_of_finished opens finished
    refine ⟨_, restored, fun entry log logs driver known serves =>
      restored.course.logged logs serves, ?_⟩
    intro other number later same ran
    cases is.symm.trans same
    cases run.symm.trans ran
    exact ⟨opened, early, moves, answer, reply, held, began, rfl, quiet,
      answered, told.symm⟩
  | refused fault last =>
    rw [run] at opens
    obtain ⟨exchanges, restored⟩ := opens
    rw [runs, Action.run_bind, run] at left
    cases left
    refine ⟨exchanges, restored, fun entry log logs driver known serves =>
      restored.course.logged logs serves, ?_⟩
    intro other number later same ran
    cases is.symm.trans same
    nomatch run.symm.trans ran
  | stopped trap =>
    rw [runs, Action.run_bind, run] at left
    nomatch left

end

/-- What is written down of files that are opened (`true`) and closed. -/
def openings : Entry Bool
  | _, .openFile _ _ _, .ok _ => some true
  | _, .close _, _ => some false
  | _, _, _ => none

/-- A volume that tells nothing about files and refuses to close them. An
empty file has been made. -/
def untrusty : Option (NameSpace (Logged openings Backend) RamDisk) :=
  afterAll
    [.register "mockfs"
        ⟨.scratch ⟨{ Scratch.fresh with refusesClose := true },
          some .untold⟩, []⟩,
      .mount "/" 0 "mockfs" true, .writeWhole "/f" []]
    { (NameSpace.empty 16 : NameSpace (Logged openings Backend) RamDisk) with
      world := ⟨[⟨32, 16, ∅⟩], [], []⟩ }

/-- The log of the first driver. -/
def logOf (space : NameSpace (Logged openings Backend) RamDisk) :
    Option (List Bool) :=
  (space.world.site? 0).map fun site => site.driver.log

theorem serves_of_logOf
    {space : NameSpace (Logged openings Backend) RamDisk} {log : List Bool}
    (known : logOf space = some log) :
    Serves (fun state => state.log = log) space.world 0 := by
  obtain ⟨site, found, same⟩ := Option.map_eq_some_iff.mp known
  rw [← putSite_self found]
  exact serves_putSite found same

/-- The file cannot be read, and the file cannot be closed. It has been asked
to be closed once, and the first of the two is told. -/
theorem closes_what_it_opened_sample :
    ∃ space after : NameSpace (Logged openings Backend) RamDisk,
      MovesWhole (.readWhole "/f" : Command (Logged openings Backend) Bytes)
      ∧ (NameSpace.run (.readWhole "/f")).run space
        = .refused .notSupported after
      ∧ logOf space = some [true, false]
      ∧ ∃ exchanges, Restored space exchanges after
        ∧ entries openings 0 exchanges = [true, false] := by
  have shape : (untrusty.map fun space =>
        (logOf space, match (readWhole "/f").run space with
          | .refused .notSupported after => logOf after
          | _ => none))
      = some (some [true, false], some [true, false, true, false]) := by
    decide +kernel
  obtain ⟨space, _, tells⟩ := Option.map_eq_some_iff.mp shape
  obtain ⟨before, later⟩ := Prod.mk.inj tells
  split at later
  · next after run =>
    have left : ((NameSpace.run (.readWhole "/f")).run space).after?
        = some after := congrArg Ending.after? run
    have whole : MovesWhole
        (.readWhole "/f" : Command (Logged openings Backend) Bytes) := trivial
    obtain ⟨exchanges, restored, logs, _⟩ := closes_what_it_opened whole left
    have written := logs openings Logged.log (logs_logged openings) 0 _
      (serves_of_logOf before)
    obtain ⟨site, found, log⟩ := written.site?
    refine ⟨space, after, whole, run, before, exchanges, restored, ?_⟩
    rw [logOf, found] at later
    have all : [true, false] ++ entries openings 0 exchanges
        = [true, false] ++ [true, false] :=
      log.symm.trans (Option.some.inj later)
    exact List.append_cancel_left all
  · nomatch later

end MountSpace.Proofs.NameSpaces
