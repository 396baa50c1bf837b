import MountSpace.DescriptorTable
import MountSpace.Proofs.Effects

/-!
# `MountSpace.Proofs.NameSpaces.Descriptors`: the files behind descriptors

A table of descriptors is used through `get` alone: a descriptor that is
given out or freed changes what is got for itself, and nothing else
(`meets_alloc`, `meets_close`). How many slots there are, and which of
them belong to the standard streams, need not be known.

A table without a free descriptor below its limit is `Full`, and it is only
then that no descriptor is given out.
-/

set_option autoImplicit false

namespace MountSpace.Proofs.NameSpaces

open Effects

variable {ρ : Type} {table after : DescriptorTable ρ} {file : OpenFile ρ}
  {descriptor : Nat}

/-- All descriptors below the limit are given out, other than those of the
standard streams. -/
def Full (table : DescriptorTable ρ) : Prop :=
  ∀ descriptor, reservedDescriptors ≤ descriptor →
    descriptor < table.limit → ∃ file, table.get descriptor = .ok file

/-- The table with a file under a descriptor that was free. -/
structure Adds (table : DescriptorTable ρ) (file : OpenFile ρ)
    (descriptor : Nat) (after : DescriptorTable ρ) : Prop where
  free : table.get descriptor = .error .badDescriptor
  get (other : Nat) : after.get other
    = if other = descriptor then .ok file else table.get other

/-- The table without the file under a descriptor. -/
structure Drops (table : DescriptorTable ρ) (descriptor : Nat)
    (after : DescriptorTable ρ) : Prop where
  get (other : Nat) : after.get other
    = if other = descriptor then .error .badDescriptor else table.get other

/-- A slot that is empty is as good as one that is not there. -/
theorem get_eq (table : DescriptorTable ρ) (descriptor : Nat) :
    table.get descriptor =
      if descriptor < reservedDescriptors then .error .badDescriptor
      else table.slots[descriptor]?.join.elim
        (.error .badDescriptor) .ok := by
  rw [DescriptorTable.get]
  rcases table.slots[descriptor]? with _ | _ | file <;> rfl

theorem get_eq_ok_iff : table.get descriptor = .ok file
    ↔ reservedDescriptors ≤ descriptor
      ∧ table.slots[descriptor]?.join = some file := by
  rw [get_eq]
  by_cases stream : descriptor < reservedDescriptors
  · simp [if_pos stream, Nat.not_le.mpr stream]
  · rw [if_neg stream]
    cases table.slots[descriptor]?.join <;> simp [Nat.not_lt.mp stream]

theorem get_eq_error
    (empty : table.slots[descriptor]?.join = none) :
    table.get descriptor = .error .badDescriptor := by
  rw [get_eq, empty]
  exact ite_self _

/-- Slots past the standard streams are all that matters. -/
theorem get_congr (same : reservedDescriptors ≤ descriptor →
      after.slots[descriptor]?.join = table.slots[descriptor]?.join) :
    after.get descriptor = table.get descriptor := by
  rw [get_eq, get_eq]
  by_cases stream : descriptor < reservedDescriptors
  · rw [if_pos stream, if_pos stream]
  · rw [if_neg stream, if_neg stream, same (Nat.not_lt.mp stream)]

/-- The empty slots that are made for the standard streams do not
matter. -/
theorem join_padded (table : DescriptorTable ρ) (descriptor : Nat) :
    table.padded[descriptor]?.join = table.slots[descriptor]?.join := by
  rw [DescriptorTable.padded, List.getElem?_append]
  split
  · rfl
  · next past =>
    rw [List.getElem?_eq_none (Nat.not_lt.mp past), List.getElem?_replicate]
    split <;> rfl

/-- The first slot that is free is past the standard streams. -/
theorem le_firstFree (table : DescriptorTable ρ) :
    reservedDescriptors ≤ table.firstFree :=
  Nat.le_add_right _ _

/-- It may be the one after all that are there. -/
theorem firstFree_le_length (table : DescriptorTable ρ) :
    table.firstFree ≤ table.padded.length := by
  have found : (table.padded.drop reservedDescriptors).findIdx Option.isNone
      ≤ (table.padded.drop reservedDescriptors).length :=
    List.findIdx_le_length
  have streams : reservedDescriptors ≤ table.padded.length := by
    rw [DescriptorTable.padded, List.length_append, List.length_replicate]
    omega
  rw [List.length_drop] at found
  rw [DescriptorTable.firstFree]
  omega

theorem join_firstFree
    (inside : table.firstFree < table.padded.length) :
    table.slots[table.firstFree]?.join = none := by
  have found : (table.padded.drop reservedDescriptors).findIdx Option.isNone
      < (table.padded.drop reservedDescriptors).length := by
    rw [List.length_drop]
    have := le_firstFree table
    rw [DescriptorTable.firstFree] at inside this
    omega
  have free := List.findIdx_getElem (p := Option.isNone) (w := found)
  rw [List.getElem_drop, Option.isNone_iff_eq_none] at free
  rw [← join_padded, List.getElem?_eq_getElem inside]
  exact free

/-- Before it no slot is free. -/
theorem get_of_lt_firstFree (beyond : reservedDescriptors ≤ descriptor)
    (before : descriptor < table.firstFree) :
    ∃ file, table.get descriptor = .ok file := by
  obtain ⟨offset, rfl⟩ := Nat.exists_eq_add_of_le beyond
  have earlier : offset
      < (table.padded.drop reservedDescriptors).findIdx Option.isNone :=
    Nat.lt_of_add_lt_add_left before
  have inside := Nat.lt_of_lt_of_le earlier List.findIdx_le_length
  have taken := List.not_of_lt_findIdx earlier
  rw [List.getElem_drop, Option.isNone_eq_false_iff] at taken
  obtain ⟨file, held⟩ := Option.isSome_iff_exists.mp taken
  refine ⟨file, get_eq_ok_iff.mpr ⟨beyond, ?_⟩⟩
  rw [List.length_drop] at inside
  rw [← join_padded, List.getElem?_eq_getElem (by omega), held]
  rfl

/-- A file gets a descriptor that was free, unless there is none. -/
theorem meets_alloc (table : DescriptorTable ρ) (file : OpenFile ρ) :
    Meets (Adds table file)
      (fun fault after => fault = .tooManyOpenFiles ∧ Full table
        ∧ ∀ descriptor, after.get descriptor = table.get descriptor)
      ((DescriptorTable.alloc file).run table) := by
  have beyond := le_firstFree table
  have slots := join_padded table
  simp only [DescriptorTable.alloc]
  split
  · next inside =>
    refine ⟨get_eq_error (join_firstFree inside), fun other => ?_⟩
    split
    · next same =>
      subst same
      exact get_eq_ok_iff.mpr
        ⟨beyond, congrArg Option.join (List.getElem?_set_self inside)⟩
    · next different =>
      refine get_congr fun _ => ?_
      rw [List.getElem?_set_ne (Ne.symm different)]
      exact slots other
  · next past =>
    -- The search has gone through all slots there are.
    have last : table.firstFree = table.padded.length :=
      Nat.le_antisymm (firstFree_le_length table) (Nat.not_lt.mp past)
    split
    · next below =>
      have none : table.slots[table.firstFree]?.join = none := by
        rw [← slots, last, List.getElem?_eq_none (Nat.le_refl _)]
        rfl
      refine ⟨get_eq_error none, fun other => ?_⟩
      split
      · next same =>
        subst same
        refine get_eq_ok_iff.mpr ⟨beyond, ?_⟩
        rw [last, List.getElem?_concat_length]
        rfl
      · next different =>
        refine get_congr fun _ => ?_
        rw [← slots other]
        rcases Nat.lt_or_ge other table.padded.length with inside | outside
        · rw [List.getElem?_append_left inside]
        · have far : (table.padded ++ [some file]).length ≤ other := by
            rw [List.length_append, List.length_singleton]
            omega
          rw [List.getElem?_eq_none far, List.getElem?_eq_none outside]
    · next full =>
      refine ⟨rfl, fun descriptor reserved below => ?_,
        fun descriptor => get_congr fun _ => slots descriptor⟩
      exact get_of_lt_firstFree reserved (by omega)

theorem run_close_of_ok (held : table.get descriptor = .ok file) :
    (DescriptorTable.close descriptor).run table
      = .done file
        { table with slots := table.slots.set descriptor none } := by
  simp only [DescriptorTable.close, held]

/-- The table after a descriptor has been freed. -/
def freed (table : DescriptorTable ρ) (descriptor : Nat) :
    DescriptorTable ρ :=
  { table with slots := table.slots.set descriptor none }

/-- Whatever the limit is, a descriptor that has been freed can be given out
again. -/
theorem exists_alloc_of_freed (held : table.get descriptor = .ok file)
    (other : OpenFile ρ) :
    ∃ number after, (DescriptorTable.alloc other).run
      (freed table descriptor) = .done number after := by
  obtain ⟨beyond, full⟩ := get_eq_ok_iff.mp held
  have inside : descriptor < table.slots.length := by
    refine Nat.lt_of_not_le fun outside => ?_
    rw [List.getElem?_eq_none outside] at full
    nomatch full
  have empty : (freed table descriptor).padded[descriptor]?
      = some none := by
    rw [DescriptorTable.padded, freed, List.getElem?_append_left
      (by rwa [List.length_set]), List.getElem?_set_self inside]
  have exists_none : ∃ slot ∈ (freed table descriptor).padded.drop
      reservedDescriptors, Option.isNone slot = true := by
    refine ⟨none, List.mem_iff_getElem?.mpr
      ⟨descriptor - reservedDescriptors, ?_⟩, rfl⟩
    rw [List.getElem?_drop, Nat.add_sub_cancel' beyond, empty]
  have found := List.findIdx_lt_length_of_exists exists_none
  have first : (freed table descriptor).firstFree
      < (freed table descriptor).padded.length := by
    rw [List.length_drop] at found
    rw [DescriptorTable.firstFree]
    omega
  simp only [DescriptorTable.alloc, if_pos first]
  exact ⟨_, _, rfl⟩

theorem run_close_of_error {fault : Fault}
    (nothing : table.get descriptor = .error fault) :
    (DescriptorTable.close descriptor).run table
      = .refused fault table := by
  simp only [DescriptorTable.close, nothing]

/-- A descriptor that is freed gives its file back. -/
theorem meets_close (table : DescriptorTable ρ) (descriptor : Nat) :
    Meets
      (fun file after => table.get descriptor = .ok file
        ∧ Drops table descriptor after)
      (fun fault after => table.get descriptor = .error fault
        ∧ after = table)
      ((DescriptorTable.close descriptor).run table) := by
  simp only [DescriptorTable.close]
  split
  · next file held =>
    refine ⟨held, ⟨fun other => ?_⟩⟩
    split
    · next same =>
      subst same
      refine get_eq_error ?_
      rw [List.getElem?_set_self']
      cases table.slots[other]? <;> rfl
    · next different =>
      refine get_congr fun _ => ?_
      rw [List.getElem?_set_ne (Ne.symm different)]
  · next fault held => exact ⟨held, rfl⟩

end MountSpace.Proofs.NameSpaces
