import MountSpace.Proofs.Storage.Reliable
import MountSpace.Proofs.Trees.Obstacles
import MountSpace.Proofs.Volumes.Entries

/-!
# `MountSpace.Proofs.Volumes.OpenRules`: which files can be opened

Whether a file can be opened, and why not, is told from the tree and the
flags alone (`verdict`). The program finds it out step by step: some of the
reasons come up when the path is looked up, some when the flags are looked
at, and one only when the tree is about to be edited.

* `openFile_verdict`: planning comes to the verdict, with the same reasons
  in the same order.
* `Begins`: what is mounted after a file has been opened.
* `decided_openFile`: on a device that does not fail a request is refused
  with the reason in the verdict, or the file is opened, provided that there
  is room for what has to be stored.
-/

set_option autoImplicit false

namespace MountSpace.Proofs.Volumes

open Effects Storage Trees

/-! ### The verdict -/

/-- What comes of opening a file at a path, for one reason after the other.
The root is a directory, so nothing is ever missing at the empty path. -/
def verdict (root : Tree) (path : List String) (flags : OpenFlags) :
    Except Fault Unit :=
  if FileAbove root path then .error .notDirectory
  else if DirectoryAt root path then .error .isDirectory
  else if FileAt root path ∧ flags.intersects .exclusive = true then
    .error .alreadyExists
  else if ¬ Present root path
      ∧ (flags.intersects .create = false
          ∧ flags.intersects .exclusive = false
        ∨ ¬ DirectoryAt root path.dropLast) then
    .error .notFound
  else .ok ()

/-- What is mounted after a file has been opened under a number. -/
structure Begins (path : List String) (flags : OpenFlags)
    (before next : Mounted) (file : FileId) : Prop where
  /-- The next transfer starts at the start of the file. -/
  handle : Keyed.get? next.handles file = some ⟨path, flags, 0⟩
  /-- A file that was missing is there now, and empty. -/
  made : ¬ Present before.root path →
    Exchanged path none (some (.file [])) before.root next.root
  /-- A file that was there is empty now, if that was asked for. -/
  emptied : ∀ data, before.root.lookup path = .ok (.file data) →
    flags.intersects .truncate = true →
    Exchanged path (some (.file data)) (some (.file []))
      before.root next.root
  /-- If not, nothing has happened to the tree. -/
  kept : ∀ data, before.root.lookup path = .ok (.file data) →
    flags.intersects .truncate = false → next.root = before.root

theorem creates_eq (flags : OpenFlags) :
    flags.creates
      = (flags.intersects .create || flags.intersects .exclusive) :=
  OpenFlags.intersects_union flags .create .exclusive

/-- A tree that has to be stored for an open file, if there is one, has room
on the device. -/
def HasRoom (path : List String) (flags : OpenFlags) (before : Mounted) :
    Prop :=
  ∀ root, Prepares flags path before.root root → root ≠ before.root →
    root.encode.length ≤ before.geometry.capacity
      ∧ root.encode.length < fieldLimit

section

variable {root : Tree} {path : List String} {flags : OpenFlags}

/-! ### How a look-up ends -/

/-- Nothing else is looked at behind a file. -/
theorem verdict_of_notDirectory
    (found : root.lookup path = .error .notDirectory) :
    verdict root path flags = .error .notDirectory := by
  rw [verdict, if_pos (lookup_eq_notDirectory_iff.mp found)]

theorem not_fileAbove_of_ok {tree : Tree} (found : root.lookup path = .ok tree) :
    ¬ FileAbove root path := by
  rw [← lookup_eq_notDirectory_iff, found]
  nofun

theorem verdict_of_directory {entries : Keyed String Tree}
    (found : root.lookup path = .ok (.directory entries)) :
    verdict root path flags = .error .isDirectory := by
  have directory : DirectoryAt root path := ⟨entries, found⟩
  rw [verdict, if_neg (not_fileAbove_of_ok found), if_pos directory]

/-- A file that is there is opened, if it does not have to be new. -/
theorem verdict_of_file {data : Bytes}
    (found : root.lookup path = .ok (.file data)) :
    verdict root path flags
      = if flags.intersects .exclusive = true then .error .alreadyExists
        else .ok () := by
  have isFile : FileAt root path := ⟨data, found⟩
  have present : Present root path := ⟨_, found⟩
  have other : ¬ DirectoryAt root path := by
    rintro ⟨entries, directory⟩
    cases found.symm.trans directory
  simp only [verdict, if_neg (not_fileAbove_of_ok found), if_neg other, isFile,
    present, true_and, not_true, false_and, if_false]

/-- A file that is missing is made, if the flags ask for that and there is
a directory for it. -/
theorem verdict_of_missing (missing : root.lookup path = .error .notFound) :
    verdict root path flags
      = if flags.creates = true ∧ DirectoryAt root path.dropLast then .ok ()
        else .error .notFound := by
  obtain ⟨clear, absent⟩ := lookup_eq_notFound_iff.mp missing
  have noDirectory : ¬ DirectoryAt root path :=
    fun ⟨_, directory⟩ => absent ⟨_, directory⟩
  have noFile : ¬ FileAt root path := fun ⟨_, file⟩ => absent ⟨_, file⟩
  simp only [verdict, if_neg clear, if_neg noDirectory, noFile, absent,
    false_and, if_false, not_false_eq_true, true_and, creates_eq]
  by_cases parent : DirectoryAt root path.dropLast
  · cases flags.intersects .create <;> cases flags.intersects .exclusive <;>
      simp [parent]
  · simp [parent]

end

/-! ### Plans -/

section

variable {before : Mounted} {path : List String} {flags : OpenFlags}
  {plan : Plan FileId}

/-- Where a file is found there is an entry, for the root is none. -/
theorem ne_nil_of_file {root : Tree} {data : Bytes}
    (isRoot : root.isDirectory = true)
    (found : root.lookup path = .ok (.file data)) : path ≠ [] := by
  rintro rfl
  cases found
  nomatch isRoot

/-- Planning finds the reasons of the verdict, in the same order. -/
theorem openFile_verdict (isRoot : before.root.isDirectory = true) :
    (before.openFile path flags).map (fun _ => ())
      = verdict before.root path flags := by
  rw [Mounted.openFile]
  cases found : before.root.lookup path with
  | ok tree =>
    cases tree with
    | directory entries =>
      rw [verdict_of_directory found]
      rfl
    | file data =>
      rw [verdict_of_file found]
      show Except.map _ (if flags.intersects .exclusive = true then _ else _)
        = _
      split
      · rfl
      · split
        · -- What was found can be replaced.
          obtain ⟨root, put⟩ := put_of_lookup found
            (ne_nil_of_file isRoot found) (.file [])
          rw [put]
          rfl
        · rfl
  | error fault =>
    rcases fault_of_lookup found with rfl | rfl
    · rw [verdict_of_notDirectory found]
      rfl
    · rw [verdict_of_missing found]
      show Except.map _ (if flags.creates = true then _ else _) = _
      split
      · next creates =>
        by_cases parent : DirectoryAt before.root path.dropLast
        · obtain ⟨root, put⟩ := (exists_put_iff found).mpr parent
          rw [put, if_pos ⟨creates, parent⟩]
          rfl
        · -- This reason comes up only when the tree is edited.
          cases put : before.root.put path (.file []) with
          | ok root =>
            exact absurd ((exists_put_iff found).mp ⟨root, put⟩) parent
          | error fault =>
            obtain ⟨rfl, _⟩ := put_eq_error found put
            rw [if_neg fun both => parent both.2]
            rfl
      · next keeps =>
        rw [if_neg fun both => keeps both.1]
        rfl

/-- A file that is there is emptied, or stays as it is because that was not
asked for or it was empty. -/
theorem openFile_of_file {data : Bytes}
    (found : before.root.lookup path = .ok (.file data))
    (made : before.openFile path flags = .ok plan) :
    flags.truncates = true ∧ data ≠ []
        ∧ before.root.put path (.file []) = .ok plan.next.root
      ∨ (flags.truncates = true → data = []) ∧ plan.next.root = before.root
        ∧ plan.stores = false := by
  rw [Mounted.openFile, found] at made
  simp only at made
  split at made
  · cases made
  · split at made
    · next empties =>
      obtain ⟨root, put, made⟩ := bind_eq_ok_iff.mp made
      cases made
      have asked : flags.truncates = true ∧ data ≠ [] := by
        simpa using empties
      exact .inl ⟨asked.1, asked.2, put⟩
    · next stays =>
      cases made
      refine .inr ⟨?_, rfl, rfl⟩
      intro truncates
      simpa [truncates] using stays

/-- A file that is missing is made. -/
theorem openFile_of_missing
    (missing : before.root.lookup path = .error .notFound)
    (made : before.openFile path flags = .ok plan) :
    before.root.put path (.file []) = .ok plan.next.root := by
  rw [Mounted.openFile, missing] at made
  simp only at made
  split at made
  · obtain ⟨root, put, made⟩ := bind_eq_ok_iff.mp made
    cases made
    exact put
  · cases made

/-- What is found where a file can be opened. -/
theorem found_of_openFile (made : before.openFile path flags = .ok plan) :
    (∃ data, before.root.lookup path = .ok (.file data))
      ∨ before.root.lookup path = .error .notFound := by
  obtain ⟨_, _, _, prepares⟩ := openFile_eq_ok made
  generalize plan.next.root = next at prepares
  cases prepares with
  | kept found => exact .inl ⟨_, found⟩
  | emptied found => exact .inl ⟨_, found⟩
  | made missing => exact .inr missing

/-- What is planned for an open file, and that only a tree that is another
one is stored for it. -/
theorem begins_of_openFile (isRoot : before.root.isDirectory = true)
    (made : before.openFile path flags = .ok plan) :
    Begins path flags before plan.next plan.value
      ∧ (plan.stores = true → Prepares flags path before.root plan.next.root
        ∧ plan.next.root ≠ before.root) := by
  obtain ⟨value, _, handles, prepares⟩ := openFile_eq_ok made
  have handle : Keyed.get? plan.next.handles plan.value
      = some ⟨path, flags, 0⟩ := by
    rw [handles, value, Keyed.get?_insert_self]
  rcases found_of_openFile made with ⟨data, found⟩ | missing
  · have same {other : Bytes}
        (also : before.root.lookup path = .ok (.file other)) :
        other = data := by
      cases found.symm.trans also
      rfl
    have present : Present before.root path := ⟨_, found⟩
    rcases openFile_of_file found made with
      ⟨truncates, filled, put⟩ | ⟨empty, kept, stores⟩
    · refine ⟨⟨handle, fun none => absurd present none, ?_, ?_⟩, ?_⟩
      · intro other also _
        cases same also
        exact exchanged_put found put
      · intro other _ clear
        have set : flags.intersects .truncate = true := truncates
        cases set.symm.trans clear
      · -- The same tree would still have the old content.
        refine fun _ => ⟨prepares, fun unchanged => filled ?_⟩
        have there := lookup_put put
        rw [unchanged, found] at there
        cases there
        rfl
    · refine ⟨⟨handle, fun none => absurd present none, ?_, ?_⟩, ?_⟩
      · intro other also truncates
        cases same also
        -- There was nothing in the file to begin with.
        cases empty truncates
        rw [kept]
        exact exchanged_self found (ne_nil_of_file isRoot found)
      · exact fun _ _ _ => kept
      · intro stored
        rw [stores] at stored
        nomatch stored
  · have put := openFile_of_missing missing made
    refine ⟨⟨handle, fun _ => exchanged_put missing put, ?_, ?_⟩, ?_⟩
    · intro other also
      nomatch missing.symm.trans also
    · intro other also
      nomatch missing.symm.trans also
    · refine fun _ => ⟨prepares, fun unchanged => ?_⟩
      have there := lookup_put put
      rw [unchanged, missing] at there
      nomatch there

end

/-! ### A device that does not fail -/

section

variable {σ τ α : Type}

/-- A device that does what it is asked within its blocks. -/
def FaultFree [BlockDevice σ] (geometry : Geometry) (device : σ) : Prop :=
  ∃ works : σ → Prop, Reliable geometry works ∧ works device

/-- An ending that is a refusal for the reason in the verdict, or if there
is none, an end of which `opened` holds. -/
structure Decided (verdict : Except Fault Unit) (ending : Ending τ α)
    (opened : α → τ → Prop) : Prop where
  refused : ∀ fault,
    (∃ after, ending = .refused fault after) ↔ verdict = .error fault
  done : (∃ value after, ending = .done value after ∧ opened value after)
    ↔ verdict = .ok ()

theorem decided_of_refused {fault : Fault} {after : τ}
    {opened : α → τ → Prop} :
    Decided (.error fault) (.refused fault after) opened := by
  constructor
  · intro other
    simp
  · simp

theorem decided_of_done {value : α} {after : τ} {opened : α → τ → Prop}
    (known : opened value after) :
    Decided (.ok ()) (.done value after) opened := by
  constructor
  · intro other
    simp
  · simpa using known

variable [BlockDevice σ] {before : Mounted} {text : String}
  {path : List String} {flags : OpenFlags}

/-- On a device that does not fail, a request to open a file comes to the
verdict, if there is room for what has to be stored. -/
theorem decided_openFile (site : Site Volume σ)
    (fits : Fits before.geometry before.root)
    (known : site.driver.mounted = some before)
    (faultFree : FaultFree before.geometry site.medium.device)
    (named : Volume.names text = .ok path) (filled : flags.isEmpty = false)
    (room : HasRoom path flags before) (permissions : UInt32) :
    Decided (verdict before.root path flags)
      ((Volume.serve (.openFile text flags permissions)).run site)
      (fun file after => ∃ next, after.driver = ⟨some next⟩
        ∧ Begins path flags before next file) := by
  have isRoot := fits.isRoot.directory
  rw [run_openFile known named filled, ← openFile_verdict isRoot]
  cases made : before.openFile path flags with
  | error fault => exact decided_of_refused
  | ok plan =>
    obtain ⟨begins, stored⟩ := begins_of_openFile isRoot made
    rw [Action.run_bind, Action.run_ofExcept_ok]
    show Decided (.ok ()) ((Volume.perform plan).run site) _
    by_cases stores : plan.stores = true
    · obtain ⟨prepares, other⟩ := stored stores
      obtain ⟨works, reliable, working⟩ := faultFree
      have follows := follows_openFile fits.isRoot
        (storable_of_names named) made
      obtain ⟨medium, store, _⟩ :=
        (store_done_iff reliable fits.readable working).mpr
          (room _ prepares other)
      rw [← follows.geometry] at store
      rw [run_perform_of_store stores store]
      exact decided_of_done ⟨plan.next, rfl, begins⟩
    · rw [run_perform, if_neg stores]
      exact decided_of_done ⟨plan.next, rfl, begins⟩

end

end MountSpace.Proofs.Volumes
