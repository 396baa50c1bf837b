import MountSpace.NameSpace.Files
import MountSpace.Proofs.Effects

/-!
# `MountSpace.Proofs.NameSpaces.Loops`: moving bytes until all are moved

A whole file is moved by one read or write after the other. A driver may
move fewer bytes than it is asked to, or none, or refuse, and each time as
it likes. Nothing is asked of it here.

* `sends_sendAll`, `receives_receiveAll`: either loop comes to an end, after
  at most one request for each byte. `Sends` and `Receives` list the
  requests and say how the loop ends with each of them.
* `run_writeWhole_of_stalls`: when a driver writes none of some bytes, the
  file is closed, and writing the whole of it is refused.
-/

set_option autoImplicit false

namespace MountSpace.Proofs.NameSpaces

open Effects
open MountSpace.NameSpace

variable {δ σ α : Type} [Driver δ σ]

/-! ### Sending -/

/-- So many writes move bytes to a file, one after the other, and end like
this. -/
inductive Sends (descriptor : Nat) : Nat → Bytes → NameSpace δ σ →
    Ending (NameSpace δ σ) Unit → Prop
  /-- All bytes have been written. -/
  | all {space : NameSpace δ σ} : Sends descriptor 0 [] space (.done () space)
  /-- Some bytes are written, and the others are next. -/
  | some {calls count : Nat} {data : Bytes} {space between : NameSpace δ σ}
    {ending : Ending (NameSpace δ σ) Unit} (more : data ≠ [])
    (run : (write descriptor data).run space = .done count between)
    (moves : count ≠ 0)
    (rest : Sends descriptor calls (data.drop count) between ending) :
    Sends descriptor (calls + 1) data space ending
  /-- No byte is written, which is a failure. -/
  | none {data : Bytes} {space after : NameSpace δ σ} (more : data ≠ [])
    (run : (write descriptor data).run space = .done 0 after) :
    Sends descriptor 1 data space (.refused .ioError after)
  | refused {data : Bytes} {space after : NameSpace δ σ} {fault : Fault}
    (more : data ≠ [])
    (run : (write descriptor data).run space = .refused fault after) :
    Sends descriptor 1 data space (.refused fault after)
  | stopped {data : Bytes} {space : NameSpace δ σ} {trap : Trap}
    (more : data ≠ [])
    (run : (write descriptor data).run space = .stopped trap) :
    Sends descriptor 1 data space (.stopped trap)

/-- There are at most as many writes as bytes. -/
theorem sends_sendAll (descriptor : Nat) (data : Bytes)
    (space : NameSpace δ σ) :
    ∃ calls, calls ≤ data.length
      ∧ Sends descriptor calls data space
        ((sendAll descriptor data).run space) := by
  fun_induction
    (sendAll descriptor data : Action (NameSpace δ σ) Unit) generalizing space
    with
  | case1 data more positive ih =>
    rw [Action.run_bind]
    cases run : (write descriptor data).run space with
    | refused fault after => exact ⟨1, positive, .refused more run⟩
    | stopped trap => exact ⟨1, positive, .stopped more run⟩
    | done count between =>
      by_cases moves : count = 0
      · subst moves
        exact ⟨1, positive, .none more run⟩
      · -- At least one byte less is left, which pays for this request.
        obtain ⟨calls, few, rest⟩ := ih count moves between
        rw [List.length_drop] at few
        simp only [dif_pos moves]
        exact ⟨calls + 1, by omega, .some more run moves rest⟩
  | case2 data none =>
    cases Decidable.not_not.mp none
    exact ⟨0, Nat.le_refl _, .all⟩

/-! ### Receiving -/

/-- So many reads move bytes from a file, one after the other, and end like
this. -/
inductive Receives (descriptor : Nat) : Nat → Nat → Bytes →
    NameSpace δ σ → Ending (NameSpace δ σ) Bytes → Prop
  /-- As many bytes have come as were to come. -/
  | all {before : Bytes} {space : NameSpace δ σ} :
    Receives descriptor 0 0 before space (.done before space)
  /-- Some bytes come, and the others are next. -/
  | some {calls length : Nat} {before found : Bytes}
    {space between : NameSpace δ σ} {ending : Ending (NameSpace δ σ) Bytes}
    (more : length ≠ 0)
    (run : (receive descriptor length).run space = .done found between)
    (moves : found ≠ [])
    (rest : Receives descriptor calls (length - found.length)
      (before ++ found) between ending) :
    Receives descriptor (calls + 1) length before space ending
  /-- No more bytes come, so this is the end of the file. -/
  | none {length : Nat} {before : Bytes} {space after : NameSpace δ σ}
    (more : length ≠ 0)
    (run : (receive descriptor length).run space = .done [] after) :
    Receives descriptor 1 length before space (.done before after)
  | refused {length : Nat} {before : Bytes} {space after : NameSpace δ σ}
    {fault : Fault} (more : length ≠ 0)
    (run : (receive descriptor length).run space = .refused fault after) :
    Receives descriptor 1 length before space (.refused fault after)
  | stopped {length : Nat} {before : Bytes} {space : NameSpace δ σ}
    {trap : Trap} (more : length ≠ 0)
    (run : (receive descriptor length).run space = .stopped trap) :
    Receives descriptor 1 length before space (.stopped trap)

/-- There are at most as many reads as bytes to come. -/
theorem receives_receiveAll (descriptor length : Nat) (before : Bytes)
    (space : NameSpace δ σ) :
    ∃ calls, calls ≤ length
      ∧ Receives descriptor calls length before.reverse space
        ((receiveAll descriptor length before).run space) := by
  fun_induction
    (receiveAll descriptor length before : Action (NameSpace δ σ) Bytes)
    generalizing space with
  | case1 length before more ih =>
    rw [Action.run_bind]
    cases run : (receive descriptor length).run space with
    | refused fault after => exact ⟨1, by omega, .refused more run⟩
    | stopped trap => exact ⟨1, by omega, .stopped more run⟩
    | done found between =>
      by_cases moves : found.length = 0
      · cases List.length_eq_zero_iff.mp moves
        exact ⟨1, by omega, .none more run⟩
      · obtain ⟨calls, few, rest⟩ := ih found moves between
        rw [List.reverse_append, List.reverse_reverse] at rest
        simp only [dif_pos moves]
        refine ⟨calls + 1, by omega, .some more run ?_ rest⟩
        exact fun none => moves (List.length_eq_zero_iff.mpr none)
  | case2 length before none =>
    cases Decidable.not_not.mp none
    exact ⟨0, Nat.le_refl _, .all⟩

/-! ### Drivers that write nothing -/

/-- Writes go on until one of something writes nothing. -/
inductive Stalls (descriptor : Nat) : Bytes → NameSpace δ σ →
    NameSpace δ σ → Prop
  | now {data : Bytes} {space after : NameSpace δ σ} (more : data ≠ [])
    (run : (write descriptor data).run space = .done 0 after) :
    Stalls descriptor data space after
  | later {count : Nat} {data : Bytes} {space between after : NameSpace δ σ}
    (more : data ≠ [])
    (run : (write descriptor data).run space = .done count between)
    (moves : count ≠ 0)
    (rest : Stalls descriptor (data.drop count) between after) :
    Stalls descriptor data space after

theorem run_sendAll_of_stalls {descriptor : Nat} {data : Bytes}
    {space after : NameSpace δ σ}
    (stalls : Stalls descriptor data space after) :
    (sendAll descriptor data).run space = .refused .ioError after := by
  induction stalls with
  | now more run =>
    rw [sendAll, dif_pos more, Action.run_bind, run]
    rfl
  | later more run moves rest ih =>
    rw [sendAll, dif_pos more, Action.run_bind, run]
    simp only [dif_pos moves]
    exact ih

/-- A transfer that is refused is told, whatever comes of the close. -/
theorem run_closing_of_refused {descriptor : Nat}
    {transfer : Action (NameSpace δ σ) α} {space between : NameSpace δ σ}
    {fault : Fault} (run : transfer.run space = .refused fault between) :
    (closing descriptor transfer).run space =
      match (close descriptor).run between with
      | .done _ after | .refused _ after => .refused fault after
      | .stopped trap => .stopped trap := by
  rw [closing, Action.run_bind, Action.run_attempt, run]
  simp only [Action.run_bind, Action.run_attempt]
  cases (close descriptor).run between <;> rfl

/-- A whole file is not written by a driver that writes nothing. -/
theorem run_writeWhole_of_stalls {path : String} {data : Bytes}
    {space between left : NameSpace δ σ} {descriptor : Nat}
    (opens : (openFile path "w" defaultPermissions).run space
      = .done descriptor between)
    (stalls : Stalls descriptor data between left) :
    (writeWhole path data).run space =
      match (close descriptor).run left with
      | .done _ after | .refused _ after => .refused .ioError after
      | .stopped trap => .stopped trap := by
  rw [writeWhole, Action.run_bind, opens]
  exact run_closing_of_refused (run_sendAll_of_stalls stalls)

end MountSpace.Proofs.NameSpaces
