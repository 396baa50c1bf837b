import Mathlib.Data.Finmap
import Mathlib.Data.Finset.Max
import Mathlib.Order.Interval.Finset.Nat
import MountSpace.Proofs.NameSpaces.Descriptors

/-!
# `MountSpace.Proofs.NameSpaces.DescriptorMap`: descriptors as a finite map

What a table of descriptors answers can be told without its slots. It is a
finite map from descriptors to open files. Its keys are past the standard
streams and below the limit, and a new file gets the least one that is free
(`FileMap.serve`). A table that has been used in any way answers as this map
does (`refines_map`), and the number of descriptors in use is the size of
the map.

The slots are padded when they are needed, grow at the end and are never
given up. What links them to the map is that the slots of the standard
streams are empty, and that there are no more slots than the limit allows
(`Represents`).
-/

set_option autoImplicit false

namespace MountSpace.Proofs.NameSpaces

open Effects

variable {ρ : Type}

/-! ### Uses of a table -/

/-- What a table of descriptors is asked. -/
inductive Use (ρ : Type) where
  | alloc (file : OpenFile ρ)
  | get (descriptor : Nat)
  | close (descriptor : Nat)

/-- What it answers. -/
inductive Given (ρ : Type) where
  | descriptor (number : Nat)
  | file (file : OpenFile ρ)
  deriving DecidableEq

/-- Asks a table. -/
def Use.onTable : Use ρ → Action (DescriptorTable ρ) (Given ρ)
  | .alloc file => Given.descriptor <$> DescriptorTable.alloc file
  | .get descriptor => do
    let table ← Action.get
    let file ← Action.ofExcept (table.get descriptor)
    return .file file
  | .close descriptor => Given.file <$> DescriptorTable.close descriptor

/-- The open files under their descriptors. -/
abbrev FileMap (ρ : Type) : Type := Finmap fun _ : Nat => OpenFile ρ

namespace FileMap

/-- The descriptors below the limit that are free. -/
def free (limit : Nat) (files : FileMap ρ) : Finset Nat :=
  Finset.Ico reservedDescriptors limit \ files.keys

/-- The file of a descriptor. -/
def get (files : FileMap ρ) (descriptor : Nat) :
    Except Fault (OpenFile ρ) :=
  match files.lookup descriptor with
  | some file => .ok file
  | none => .error .badDescriptor

/-- Asks the map. -/
def serve (limit : Nat) :
    Use ρ → StateM (FileMap ρ) (Except Fault (Given ρ))
  | .alloc file => fun files =>
    if some : (files.free limit).Nonempty then
      let least := (files.free limit).min' some
      (.ok (.descriptor least), files.insert least file)
    else (.error .tooManyOpenFiles, files)
  | .get descriptor => fun files =>
    (Given.file <$> files.get descriptor, files)
  | .close descriptor => fun files =>
    (Given.file <$> files.get descriptor, files.erase descriptor)

end FileMap

/-! ### Slots and keys -/

/-- The table has the files of the map, and no slot that it should not
have. -/
structure Represents (limit : Nat) (table : DescriptorTable ρ)
    (files : FileMap ρ) : Prop where
  sameLimit : table.limit = limit
  get (descriptor : Nat) : table.get descriptor = files.get descriptor
  /-- The slots of the standard streams are empty. -/
  streams {descriptor : Nat} : descriptor < reservedDescriptors →
    table.slots[descriptor]?.join = none
  length : table.slots.length ≤ max limit reservedDescriptors
  count : table.openCount = files.keys.card

section

variable {limit descriptor : Nat} {table after : DescriptorTable ρ}
  {files : FileMap ρ} {file : OpenFile ρ}

theorem FileMap.mem_keys_iff :
    descriptor ∈ files.keys ↔ ∃ file, files.get descriptor = .ok file := by
  rw [Finmap.mem_keys, Finmap.mem_iff, FileMap.get]
  cases files.lookup descriptor <;> simp

theorem FileMap.get_of_notMem (absent : descriptor ∉ files.keys) :
    files.get descriptor = .error .badDescriptor := by
  rw [FileMap.get, Finmap.lookup_eq_none.mpr (Finmap.mem_keys.not.mp absent)]

theorem FileMap.get_insert (files : FileMap ρ) (descriptor other : Nat)
    (file : OpenFile ρ) :
    FileMap.get (files.insert descriptor file) other
      = if other = descriptor then .ok file else files.get other := by
  rw [FileMap.get, FileMap.get]
  by_cases same : other = descriptor
  · rw [if_pos same, same, Finmap.lookup_insert]
  · rw [if_neg same, Finmap.lookup_insert_of_ne _ same]

theorem FileMap.get_erase (files : FileMap ρ) (descriptor other : Nat) :
    FileMap.get (files.erase descriptor) other
      = if other = descriptor then .error .badDescriptor
        else files.get other := by
  rw [FileMap.get, FileMap.get]
  by_cases same : other = descriptor
  · rw [if_pos same, same, Finmap.lookup_erase]
  · rw [if_neg same, Finmap.lookup_erase_ne same]

/-- The key of a file that is added is one more. -/
theorem FileMap.card_keys_insert (new : descriptor ∉ files.keys)
    (file : OpenFile ρ) :
    (files.insert descriptor file).keys.card = files.keys.card + 1 := by
  have keys : (files.insert descriptor file).keys
      = insert descriptor files.keys := by
    ext other
    simp only [Finmap.mem_keys, Finmap.mem_insert, Finset.mem_insert]
  rw [keys, Finset.card_insert_of_notMem new]

/-- A descriptor that is in use has its slot. -/
theorem slot_of_get (held : table.get descriptor = .ok file) :
    ∃ inside : descriptor < table.slots.length,
      table.slots[descriptor] = some file := by
  have slot := (get_eq_ok_iff.mp held).2
  obtain ⟨inside, filled⟩ :=
    List.getElem?_eq_some_iff.mp (Option.join_eq_some_iff.mp slot)
  exact ⟨inside, filled⟩

theorem run_alloc (file : OpenFile ρ) (table : DescriptorTable ρ) :
    (DescriptorTable.alloc file).run table =
      if table.firstFree < table.padded.length then
        .done table.firstFree
          { table with slots := table.padded.set table.firstFree (some file) }
      else if table.firstFree < table.limit then
        .done table.firstFree
          { table with slots := table.padded ++ [some file] }
      else
        .refused .tooManyOpenFiles { table with slots := table.padded } :=
  rfl

/-- Empty slots do not count. -/
theorem countP_padded (table : DescriptorTable ρ) :
    table.padded.countP Option.isSome = table.openCount := by
  rw [DescriptorTable.padded, List.countP_append, List.countP_replicate]
  exact Nat.add_zero _

theorem length_padded (table : DescriptorTable ρ) :
    table.padded.length
      = max table.slots.length reservedDescriptors := by
  rw [DescriptorTable.padded, List.length_append, List.length_replicate]
  omega

namespace Represents

variable (represents : Represents limit table files)

include represents

/-- Descriptors in use are past the standard streams and below the
limit. -/
theorem mem_range (member : descriptor ∈ files.keys) :
    reservedDescriptors ≤ descriptor ∧ descriptor < limit := by
  obtain ⟨file, held⟩ := FileMap.mem_keys_iff.mp member
  rw [← represents.get] at held
  have beyond := (get_eq_ok_iff.mp held).1
  obtain ⟨inside, _⟩ := slot_of_get held
  have length := represents.length
  omega

/-- The descriptors that are free are those of the range that nothing is
got for. -/
theorem mem_free_iff :
    descriptor ∈ files.free limit
      ↔ (reservedDescriptors ≤ descriptor ∧ descriptor < limit)
        ∧ ¬ ∃ file, table.get descriptor = .ok file := by
  rw [FileMap.free, Finset.mem_sdiff, Finset.mem_Ico, FileMap.mem_keys_iff,
    represents.get]

theorem notMem {fault : Fault}
    (nothing : table.get descriptor = .error fault) :
    descriptor ∉ files.keys := by
  rw [FileMap.mem_keys_iff, ← represents.get, nothing]
  rintro ⟨_, held⟩
  cases held

/-- Padding makes no slot that the table should not have. -/
theorem streams_padded (below : descriptor < reservedDescriptors) :
    table.padded[descriptor]?.join = none :=
  (join_padded table descriptor).trans (represents.streams below)

/-- A table that is padded has the files it had. -/
theorem padded : Represents limit { table with slots := table.padded }
    files where
  sameLimit := represents.sameLimit
  get descriptor := by
    rw [← represents.get]
    exact get_congr fun _ => join_padded table descriptor
  streams := represents.streams_padded
  length := by
    have length := represents.length
    rw [length_padded]
    omega
  count := (countP_padded table).trans represents.count

/-- A table that gave a file a descriptor has one file more. -/
theorem of_run_alloc {slots : List (Option (OpenFile ρ))}
    (run : (DescriptorTable.alloc file).run table
      = .done descriptor { table with slots })
    (streams : ∀ {stream}, stream < reservedDescriptors →
      slots[stream]?.join = none)
    (length : slots.length ≤ max limit reservedDescriptors)
    (count : slots.countP Option.isSome
      = table.padded.countP Option.isSome + 1) :
    Represents limit { table with slots }
      (files.insert descriptor file) where
  sameLimit := represents.sameLimit
  get other := by
    have adds := meets_alloc table file
    rw [run] at adds
    rw [adds.get, FileMap.get_insert, represents.get]
  streams := streams
  length := length
  count := by
    have adds := meets_alloc table file
    rw [run] at adds
    rw [FileMap.card_keys_insert (represents.notMem adds.free),
      ← represents.padded.count]
    exact count

/-- Below the limit there is a slot for a file, or room for one. -/
theorem alloc_of_lt (below : table.firstFree < limit) (file : OpenFile ρ) :
    ∃ after, (DescriptorTable.alloc file).run table
        = .done table.firstFree after
      ∧ Represents limit after (files.insert table.firstFree file) := by
  have run := run_alloc file table
  have beyond := le_firstFree table
  have bound : table.padded.length ≤ max limit reservedDescriptors :=
    represents.padded.length
  rcases Nat.lt_or_ge table.firstFree table.padded.length with inside | past
  · rw [if_pos inside] at run
    have empty : table.padded[table.firstFree] = none := by
      have none := join_firstFree inside
      rw [← join_padded, List.getElem?_eq_getElem inside] at none
      exact none
    refine ⟨_, run, represents.of_run_alloc run (fun reserved => ?_) ?_ ?_⟩
    · rw [List.getElem?_set_ne (by omega)]
      exact represents.streams_padded reserved
    · rw [List.length_set]
      exact bound
    · rw [List.countP_set inside, empty]
      rfl
  · -- The search has gone through all slots there are.
    have last := firstFree_le_length table
    rw [if_neg (Nat.not_lt.mpr past),
      if_pos (represents.sameLimit ▸ below)] at run
    refine ⟨_, run, represents.of_run_alloc run (fun reserved => ?_) ?_ ?_⟩
    · rw [List.getElem?_append_left (by omega)]
      exact represents.streams_padded reserved
    · rw [List.length_append, List.length_singleton]
      omega
    · rw [List.countP_append]
      rfl

/-- Past the limit no file gets a slot. -/
theorem alloc_of_ge (past : limit ≤ table.firstFree) (file : OpenFile ρ) :
    (DescriptorTable.alloc file).run table
      = .refused .tooManyOpenFiles
        { table with slots := table.padded } := by
  have beyond := le_firstFree table
  have bound : table.padded.length ≤ max limit reservedDescriptors :=
    represents.padded.length
  have outside : ¬ table.firstFree < table.padded.length := by omega
  rw [run_alloc, if_neg outside,
    if_neg (represents.sameLimit ▸ Nat.not_lt.mpr past)]

/-- The descriptor that is found is the least one that is free, if any
is. -/
theorem least_free (below : table.firstFree < limit) :
    ∃ some : (files.free limit).Nonempty,
      (files.free limit).min' some = table.firstFree := by
  have member : table.firstFree ∈ files.free limit := by
    refine represents.mem_free_iff.mpr
      ⟨⟨le_firstFree table, below⟩, ?_⟩
    rintro ⟨file, held⟩
    obtain ⟨after, run, _⟩ := represents.alloc_of_lt below file
    have adds := meets_alloc table file
    rw [run] at adds
    cases adds.free.symm.trans held
  refine ⟨⟨_, member⟩, Nat.le_antisymm (Finset.min'_le _ _ member) ?_⟩
  refine Finset.le_min' _ _ _ fun other isFree => ?_
  obtain ⟨⟨beyond, _⟩, none⟩ := represents.mem_free_iff.mp isFree
  exact Nat.not_lt.mp fun before => none (get_of_lt_firstFree beyond before)

theorem free_eq_empty (past : limit ≤ table.firstFree) :
    files.free limit = ∅ := by
  refine Finset.eq_empty_of_forall_notMem fun descriptor isFree => ?_
  obtain ⟨⟨beyond, below⟩, none⟩ := represents.mem_free_iff.mp isFree
  exact none (get_of_lt_firstFree beyond (by omega))

/-- A file that goes takes its key along. -/
theorem of_close (held : table.get descriptor = .ok file) :
    Represents limit
      { table with slots := table.slots.set descriptor none }
      (files.erase descriptor) where
  sameLimit := represents.sameLimit
  get other := by
    have drops := meets_close table descriptor
    rw [run_close_of_ok held] at drops
    rw [drops.2.get, FileMap.get_erase, represents.get]
  streams reserved := by
    rw [List.getElem?_set_ne]
    · exact represents.streams reserved
    · have beyond := (get_eq_ok_iff.mp held).1
      omega
  length := (List.length_set ..).trans_le represents.length
  count := by
    obtain ⟨inside, filled⟩ := slot_of_get held
    have member : descriptor ∈ files.keys :=
      FileMap.mem_keys_iff.mpr ⟨file, represents.get descriptor ▸ held⟩
    rw [Finmap.keys_erase, Finset.card_erase_of_mem member,
      ← represents.count]
    show (table.slots.set descriptor none).countP Option.isSome = _
    rw [List.countP_set inside, filled]
    rfl

/-- There is nothing to take from the map where nothing is got. -/
theorem of_get_error {fault : Fault}
    (nothing : table.get descriptor = .error fault) :
    Represents limit table (files.erase descriptor) := by
  have absent := represents.notMem nothing
  refine { represents with get := fun other => ?_, count := ?_ }
  · rw [FileMap.get_erase, represents.get]
    split
    · next same => rw [same, FileMap.get_of_notMem absent]
    · rfl
  · rw [Finmap.keys_erase, Finset.erase_eq_of_notMem absent]
    exact represents.count

/-! ### One use -/

/-- The table answers as the map does. -/
theorem serve (use : Use ρ) :
    ∃ after, use.onTable.attempt.run table
        = .done ((FileMap.serve limit use).run files).1 after
      ∧ Represents limit after ((FileMap.serve limit use).run files).2 := by
  cases use with
  | alloc file =>
    rcases Nat.lt_or_ge table.firstFree limit with below | past
    · obtain ⟨some, least⟩ := represents.least_free below
      obtain ⟨after, run, still⟩ := represents.alloc_of_lt below file
      have given : (FileMap.serve limit (.alloc file)).run files
          = (.ok (.descriptor table.firstFree),
            files.insert table.firstFree file) := by
        rw [← least]
        exact dif_pos some
      rw [given]
      refine ⟨after, ?_, still⟩
      rw [Use.onTable, Action.run_attempt, Action.run_map, run]
    · have given : (FileMap.serve limit (.alloc file)).run files
          = (.error .tooManyOpenFiles, files) :=
        dif_neg (Finset.not_nonempty_iff_eq_empty.mpr
          (represents.free_eq_empty past))
      rw [given]
      refine ⟨_, ?_, represents.padded⟩
      rw [Use.onTable, Action.run_attempt, Action.run_map,
        represents.alloc_of_ge past file]
  | get descriptor =>
    refine ⟨table, ?_, represents⟩
    have got : (FileMap.serve limit (.get descriptor)).run files
        = (Given.file <$> table.get descriptor, files) := by
      rw [represents.get]
      rfl
    rw [got]
    simp only [Use.onTable, Action.run_attempt, Action.run_bind,
      Action.run_get]
    cases table.get descriptor <;> rfl
  | close descriptor =>
    have freed : (FileMap.serve limit (.close descriptor)).run files
        = (Given.file <$> table.get descriptor, files.erase descriptor) := by
      rw [represents.get]
      rfl
    rw [freed, Use.onTable, Action.run_attempt, Action.run_map]
    cases found : table.get descriptor with
    | ok file =>
      rw [run_close_of_ok found]
      exact ⟨_, rfl, represents.of_close found⟩
    | error fault =>
      rw [run_close_of_error found]
      refine ⟨table, rfl, ?_⟩
      exact represents.of_get_error found

end Represents

theorem represents_empty (limit : Nat) :
    Represents limit (.empty limit) (∅ : FileMap ρ) where
  sameLimit := rfl
  get descriptor := by
    rw [get_eq]
    exact ite_self _
  streams _ := rfl
  length := Nat.zero_le _
  count := rfl

/-! ### Any number of uses -/

/-- A table that is used again and again answers as the map does. -/
theorem Represents.serve_all (uses : List (Use ρ))
    (represents : Represents limit table files) :
    ∃ after,
      (uses.mapM fun use : Use ρ => use.onTable.attempt).run table
        = .done ((uses.mapM (FileMap.serve limit)).run files).1 after
      ∧ Represents limit after
        ((uses.mapM (FileMap.serve limit)).run files).2 := by
  induction uses generalizing table files with
  | nil => exact ⟨table, rfl, represents⟩
  | cons use uses tail =>
    obtain ⟨between, first, still⟩ := represents.serve use
    obtain ⟨after, rest, last⟩ := tail still
    refine ⟨after, ?_, ?_⟩
    · simp only [List.mapM_cons, Action.run_bind, first, rest]
      rfl
    · rw [List.mapM_cons]
      exact last

/-- The map is full when no descriptor is left for one more file. -/
theorem Represents.alloc_refused_iff
    (represents : Represents limit table files) (file : OpenFile ρ) :
    ((DescriptorTable.alloc file).run table).reply?
        = some (.error .tooManyOpenFiles)
      ↔ table.openCount
        = max limit reservedDescriptors - reservedDescriptors := by
  have range : files.keys ⊆ Finset.Ico reservedDescriptors limit :=
    fun _ member => Finset.mem_Ico.mpr (represents.mem_range member)
  have size : (Finset.Ico reservedDescriptors limit).card
      = max limit reservedDescriptors - reservedDescriptors := by
    rw [Nat.card_Ico]
    omega
  rw [represents.count, ← size]
  rcases Nat.lt_or_ge table.firstFree limit with below | past
  · obtain ⟨after, run, _⟩ := represents.alloc_of_lt below file
    obtain ⟨⟨free, isFree⟩, _⟩ := represents.least_free below
    obtain ⟨inside, absent⟩ := Finset.mem_sdiff.mp isFree
    rw [run]
    refine iff_of_false (fun refused => ?_) (fun all => absent ?_)
    · cases refused
    · rw [Finset.eq_of_subset_of_card_le range all.ge]
      exact inside
  · have all : files.keys = Finset.Ico reservedDescriptors limit :=
      range.antisymm
        (Finset.sdiff_eq_empty_iff_subset.mp (represents.free_eq_empty past))
    rw [represents.alloc_of_ge past file, all]
    exact iff_of_true rfl rfl

/-- A descriptor in use is not given out. -/
theorem Represents.alloc_absent
    (represents : Represents limit table files)
    (given : ((DescriptorTable.alloc file).run table).reply?
      = some (.ok descriptor)) : descriptor ∉ files.keys := by
  have adds := meets_alloc table file
  cases ending : (DescriptorTable.alloc file).run table with
  | done value after =>
    rw [ending] at adds given
    cases given
    exact represents.notMem adds.free
  | refused fault after | stopped trap =>
    rw [ending] at given
    cases given

/-- A table of descriptors answers as a map of bounded size does, whatever
it is asked and in whatever order: to `alloc` with the least descriptor
that is free past the standard streams and below the limit, to `get` and
`close` with the file of a descriptor in use. Its count is the size of the
map, and it refuses a file when the count is the number of descriptors
that there are, which may be none. No descriptor is given to a second file
while it is in use. -/
theorem refines_map (limit : Nat) (uses : List (Use ρ)) :
    let (answers, files) := (uses.mapM (FileMap.serve limit)).run ∅
    ∃ table,
      (uses.mapM fun use : Use ρ => use.onTable.attempt).run
          (.empty limit) = .done answers table
        ∧ (∀ descriptor, table.get descriptor = files.get descriptor)
        ∧ (∀ descriptor ∈ files.keys,
          reservedDescriptors ≤ descriptor ∧ descriptor < limit)
        ∧ table.openCount = files.keys.card
        ∧ ∀ file,
          (((DescriptorTable.alloc file).run table).reply?
              = some (.error .tooManyOpenFiles)
            ↔ table.openCount
              = max limit reservedDescriptors - reservedDescriptors)
          ∧ (limit ≤ reservedDescriptors →
            ((DescriptorTable.alloc file).run table).reply?
              = some (.error .tooManyOpenFiles))
          ∧ ∀ descriptor, ((DescriptorTable.alloc file).run table).reply?
              = some (.ok descriptor) → descriptor ∉ files.keys := by
  obtain ⟨table, run, represents⟩ :=
    (represents_empty limit).serve_all uses
  refine ⟨table, run, represents.get, fun _ => represents.mem_range,
    represents.count, fun file => ⟨represents.alloc_refused_iff file,
      fun small => ?_, fun _ => represents.alloc_absent⟩⟩
  rw [represents.alloc_of_ge (small.trans (le_firstFree table)) file]
  rfl

end

end MountSpace.Proofs.NameSpaces
