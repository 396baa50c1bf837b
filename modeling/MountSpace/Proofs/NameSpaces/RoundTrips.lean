import MountSpace.Device.RamDisk
import MountSpace.NameSpace.Command
import MountSpace.Proofs.Drivers.Rationed
import MountSpace.Proofs.NameSpaces.Loops
import MountSpace.Proofs.NameSpaces.Reachable
import MountSpace.Proofs.NameSpaces.WholeFiles

/-!
# `MountSpace.Proofs.NameSpaces.RoundTrips`: what is written is read

A whole file that has been written holds what was written, and can be read
at once (`whole_files_round_trip`). That is so for drivers of either type,
and when they are held back at each transfer as somebody likes. The loops
that move the bytes end with any driver at all.

There are two limits at which reading stops (`readWhole_stops`): a driver may
tell more bytes than a byte string can have, and a scratch volume may have
given out all its numbers for open files.
-/

set_option autoImplicit false

namespace MountSpace.Proofs.NameSpaces

open Effects
open MountSpace.NameSpace
open Drivers (Rationed backendOutlook backendPiecewise rationedPiecewise)

/-- A file that has been written as a whole holds what was written, and
reading it gives that, if a scratch volume has a number for one more open
file, and a driver that overstates the size does not tell more bytes than a
byte string can have. So it is with each of the two types of drivers, held
back or not. With any driver, writing and reading take at most one request
for each byte to be moved, and if one of the writes writes nothing, writing
the file is refused after it has been closed. -/
theorem whole_files_round_trip {σ : Type} [BlockDevice σ] :
    RoundTrips σ backendOutlook
      ∧ RoundTrips σ backendOutlook.rationed
      ∧ (∀ {δ τ : Type} [Driver δ τ] (space : NameSpace δ τ)
          (descriptor : Nat),
        (∀ data, ∃ calls, calls ≤ data.length
          ∧ Sends descriptor calls data space
            ((sendAll descriptor data).run space))
        ∧ ∀ length, ∃ calls, calls ≤ length
          ∧ Receives descriptor calls length [] space
            ((receiveAll descriptor length []).run space))
      ∧ ∀ {δ τ : Type} [Driver δ τ] (space between left : NameSpace δ τ)
          (path : String) (data : Bytes) (descriptor : Nat),
        (openFile path "w" defaultPermissions).run space
          = .done descriptor between →
        Stalls descriptor data between left →
        (writeWhole path data).run space =
          match (close descriptor).run left with
          | .done _ after | .refused _ after => .refused .ioError after
          | .stopped trap => .stopped trap := by
  refine ⟨roundTrips (backendPiecewise σ),
    roundTrips (rationedPiecewise (backendPiecewise σ)), ?_, ?_⟩
  · intro δ τ _ space descriptor
    exact ⟨fun data => sends_sendAll descriptor data space,
      fun length => receives_receiveAll descriptor length [] space⟩
  · intro δ τ _ space between left path data descriptor opens stalls
    exact run_writeWhole_of_stalls opens stalls

/-- A volume that moves at most two bytes at a request, and tells sizes that
are too large, is mounted at the root. -/
def heldBack : Option (NameSpace (Rationed Backend) RamDisk) :=
  afterAll
    [.register "held" ⟨.freshVolume, fun _ => some 1, fun asked => asked, 0⟩,
      .mount "/" 0 "held" true]
    { (NameSpace.empty 16 : NameSpace (Rationed Backend) RamDisk) with
      world := ⟨[⟨96, 32, ∅⟩], [], []⟩ }

/-- A scratch volume is mounted at the root, as it is or with a defect. -/
def scratched (scratch : Hampered) : Option (NameSpace Backend RamDisk) :=
  afterAll [.register "some" (.scratch scratch), .mount "/" 0 "some" true]
    { (NameSpace.empty 16 : NameSpace Backend RamDisk) with
      world := ⟨[⟨96, 32, ∅⟩], [], []⟩ }

/-- What writing a file comes to if its first write writes nothing. -/
def stalling : Action (NameSpace Backend RamDisk) (Nat × Unit) := do
  let descriptor ← openFile "/f" "w" defaultPermissions
  let count ← write descriptor [1]
  let closed ← close descriptor
  return (count, closed)

/-- Whether a path leads to a volume, if it leads anywhere. -/
def onVolume (space : NameSpace (Rationed Backend) RamDisk)
    (path : String) : Bool :=
  (driverAt space path).all fun driver => (volume? driver.inner).isSome

/-- A volume is sound, and has always one more number. -/
theorem sound_of_onVolume {space : NameSpace (Rationed Backend) RamDisk}
    {path : String} {driver : Rationed Backend}
    (volumes : onVolume space path = true)
    (found : driverAt space path = some driver) :
    backendOutlook.rationed.sound driver
      ∧ ¬ backendOutlook.rationed.spent driver := by
  rw [onVolume, found] at volumes
  obtain ⟨inner, ration, excess, asked⟩ := driver
  cases inner with
  | volume volume => exact ⟨trivial, id⟩
  | scratch scratch => nomatch volumes

/-- Five bytes are written two at a time, and read again. Where none are
written, writing is refused. -/
theorem whole_files_round_trip_sample :
    (∃ space after last : NameSpace (Rationed Backend) RamDisk,
      (writeWhole "/f" [1, 2, 3, 4, 5]).run space = .done () after
        ∧ contentAt backendOutlook.rationed after "/f"
          = some [1, 2, 3, 4, 5]
        ∧ (readWhole "/f").run after = .done [1, 2, 3, 4, 5] last)
      ∧ ∃ space after : NameSpace Backend RamDisk,
        (writeWhole "/f" [1]).run space = .refused .ioError after := by
  obtain ⟨_, trips, _, stalls⟩ := whole_files_round_trip (σ := RamDisk)
  constructor
  · have shape : heldBack.any fun space =>
        let ending := (writeWhole "/f" [1, 2, 3, 4, 5]).run space
        onVolume space "/f" = true
          ∧ ending.reply? = some (.ok ())
          ∧ (ending.after?.any fun after => onVolume after "/f"
            ∧ (driverAt after "/f").any fun driver =>
              backendOutlook.rationed.surplus driver < 100) = true := by
      decide +kernel
    obtain ⟨space, _, known⟩ := (Option.any_eq_true _ _).mp shape
    obtain ⟨volumes, answered, still⟩ := of_decide_eq_true known
    obtain ⟨after, run⟩ := eq_done_of_reply? answered
    rw [run] at still
    obtain ⟨stays, tells⟩ := of_decide_eq_true still
    obtain ⟨contents, _, driver, found, reads⟩ :=
      trips space after "/f" [1, 2, 3, 4, 5]
        (fun _ found => (sound_of_onVolume volumes found).1) run
    rw [found] at tells
    have few : backendOutlook.rationed.surplus driver < 100 :=
      of_decide_eq_true tells
    have fits : 5 + backendOutlook.rationed.surplus driver < sizeLimit := by
      rw [sizeLimit]
      omega
    obtain ⟨last, whole⟩ :=
      reads.whole (sound_of_onVolume stays found).2 fits
    exact ⟨space, after, last, run, contents, whole⟩
  · have shape : (scratched ⟨.fresh, some (.shortTransfers 0)⟩).any
        fun space => (stalling.run space).reply? = some (.ok (0, ())) := by
      decide +kernel
    obtain ⟨space, _, known⟩ := (Option.any_eq_true _ _).mp shape
    obtain ⟨last, run⟩ := eq_done_of_reply? (of_decide_eq_true known)
    obtain ⟨descriptor, between, opens, run⟩ := run_bind_eq_done.mp run
    obtain ⟨count, left, writes, run⟩ := run_bind_eq_done.mp run
    obtain ⟨_, after, closes, ends⟩ := run_bind_eq_done.mp run
    cases ends
    have refuses := stalls space between left "/f" [1] descriptor opens
      (.now (List.cons_ne_nil _ _) writes)
    rw [closes] at refuses
    exact ⟨space, last, refuses⟩

/-! ### The two limits -/

/-- How a file can be read that has been written as a whole. -/
def rereading (space : NameSpace Backend RamDisk) :
    Option (Ending (NameSpace Backend RamDisk) Bytes) :=
  match (writeWhole "/f" [1]).run space with
  | .done _ after => some ((readWhole "/f").run after)
  | _ => none

/-- A scratch volume of which files are said to be too large for any byte
string. -/
def exaggerated : Hampered := ⟨.fresh, some (.overstated sizeLimit)⟩

/-- A scratch volume that has two numbers left, the last of which it does not
give out. -/
def worn : Hampered := ⟨{ Scratch.fresh with nextId := 0xffff_fffe }, none⟩

theorem done_of_rereading {scratch : Hampered} {trap : Trap}
    (stops : (scratched scratch).any
      (fun space => rereading space = some (.stopped trap)) = true) :
    ∃ space after, scratched scratch = some space
      ∧ (writeWhole "/f" [1]).run space = .done () after
      ∧ (readWhole "/f").run after = .stopped trap := by
  obtain ⟨space, is, stops⟩ := (Option.any_eq_true _ _).mp stops
  have stops := of_decide_eq_true stops
  rw [rereading] at stops
  split at stops
  · next after writes => exact ⟨space, after, is, writes, Option.some.inj stops⟩
  · nomatch stops

/-- A file has been written, but reading it stops: where it is said to be too
large, and where there is no number for one more open file. -/
theorem readWhole_stops :
    (∃ space after, scratched exaggerated = some space
      ∧ (writeWhole "/f" [1]).run space = .done () after
      ∧ (readWhole "/f").run after = .stopped .sizeOverflow)
    ∧ ∃ space after, scratched worn = some space
      ∧ (writeWhole "/f" [1]).run space = .done () after
      ∧ (readWhole "/f").run after = .stopped .fileIdOverflow :=
  ⟨done_of_rereading (by decide +kernel), done_of_rereading (by decide +kernel)⟩

end MountSpace.Proofs.NameSpaces
