import MountSpace.Device.RamDisk
import MountSpace.Proofs.Trees.Exchanges
import MountSpace.Proofs.Volumes.Nodes
import MountSpace.Proofs.Volumes.PlannedFiles

/-!
# `MountSpace.Proofs.Volumes.Entries`: requests for one entry

To make a directory, to remove one and to remove a file are requests for
one entry of one directory. Such a request is planned on the tree that is
mounted, which is then edited from its root, by another descent.

* `Alters`: what is mounted after such a request, the same open files with
  one entry exchanged.
* `put_of_exclusive`: a file that must be new is put where nothing is.
* `one_entry_exchanged`: the requests that are done alter one entry. What a
  request has put in and another one has taken out again leaves the tree
  as it was.
-/

set_option autoImplicit false

namespace MountSpace.Proofs.Volumes

open Effects Trees

/-- One entry of the tree is exchanged, and nothing else that is mounted
changes, no open file either. -/
structure Alters (path : List String) (old new : Option Tree)
    (before next : Mounted) : Prop where
  tree : Exchanged path old new before.root next.root
  rest : next = { before with root := next.root }

/-- Where a file must be new, opening makes it. -/
theorem put_of_exclusive {mounted : Mounted} {path : List String}
    {flags : OpenFlags} {plan : Plan FileId}
    (exclusive : flags.isExclusive = true)
    (made : mounted.openFile path flags = .ok plan) :
    mounted.root.lookup path = .error .notFound
      ∧ mounted.root.put path (.file []) = .ok plan.next.root := by
  -- A file that is there is refused, so the other two ways drop out.
  have refused {data : Bytes}
      (found : mounted.root.lookup path = .ok (.file data)) : False := by
    rw [Mounted.openFile, found] at made
    simp only [if_pos exclusive] at made
    cases made
  obtain ⟨_, _, _, prepares⟩ := openFile_eq_ok made
  generalize plan.next.root = next at prepares ⊢
  cases prepares with
  | kept found => exact (refused found).elim
  | emptied found => exact (refused found).elim
  | made missing _ put => exact ⟨missing, put⟩

section

variable {σ : Type} [BlockDevice σ] {site after : Site Volume σ}
  {before : Mounted} {path : List String} {text : String}

/-- What a request about files that is done leaves mounted is what was
planned. -/
theorem planned_driver {α : Type} {request : Request α} {value : α}
    (run : (Volume.serve request).run site = .done value after)
    (files : AboutFiles request) :
    ∃ plan, planned site.driver request = .ok plan ∧ value = plan.value
      ∧ after.driver = ⟨some plan.next⟩ := by
  obtain ⟨plan, made, performs⟩ := planned_of_done run files
  obtain ⟨result, driver, _⟩ := performed_of_done performs
  exact ⟨plan, made, result, driver⟩

/-- What a directory that has been made was planned on. -/
theorem planned_makeDirectory
    (known : site.driver.mounted = some before)
    (named : Volume.names text = .ok path)
    (run : (Volume.serve (.makeDirectory text)).run site = .done () after) :
    before.root.lookup path = .error .notFound
      ∧ ∃ root, before.root.put path Tree.empty = .ok root
        ∧ after.driver = ⟨some { before with root }⟩ := by
  obtain ⟨plan, made, _, driver⟩ := planned_driver run trivial
  simp only [planned, named, current, known, ok_bind] at made
  obtain ⟨missing, root, put, rfl⟩ := makeDirectory_eq_ok made
  exact ⟨missing, root, put, driver⟩

/-- What a directory that has been removed was planned on. -/
theorem planned_removeDirectory
    (known : site.driver.mounted = some before)
    (named : Volume.names text = .ok path)
    (run : (Volume.serve (.removeDirectory text)).run site
      = .done () after) :
    before.root.lookup path = .ok Tree.empty
      ∧ ∃ root, before.root.remove path = .ok root
        ∧ after.driver = ⟨some { before with root }⟩ := by
  obtain ⟨plan, made, _, driver⟩ := planned_driver run trivial
  simp only [planned, named, current, known, ok_bind] at made
  -- The root is refused before it is looked up.
  split at made
  · cases made
  · obtain ⟨found, root, remove, rfl⟩ := removeDirectory_eq_ok made
    exact ⟨found, root, remove, driver⟩

/-- What a file that has been removed was planned on. -/
theorem planned_unlink
    (known : site.driver.mounted = some before)
    (named : Volume.names text = .ok path)
    (run : (Volume.serve (.unlink text)).run site = .done () after) :
    ∃ data, before.root.lookup path = .ok (.file data)
      ∧ ∃ root, before.root.remove path = .ok root
        ∧ after.driver = ⟨some { before with root }⟩ := by
  obtain ⟨plan, made, _, driver⟩ := planned_driver run trivial
  simp only [planned, named, current, known, ok_bind] at made
  obtain ⟨data, found, root, remove, rfl⟩ := unlink_eq_ok made
  exact ⟨data, found, root, remove, driver⟩

/-- To open a file is to carry out what is planned for what is mounted. -/
theorem run_openFile {flags : OpenFlags}
    (known : site.driver.mounted = some before)
    (named : Volume.names text = .ok path) (filled : flags.isEmpty = false)
    (permissions : UInt32) :
    (Volume.serve (.openFile text flags permissions)).run site
      = (Action.ofExcept (before.openFile path flags)
          >>= Volume.perform).run site := by
  simp only [Volume.serve, Volume.openFile, filled, named]
  show (Volume.onMounted _).run site = _
  rw [run_onMounted, current, known]
  rfl

/-- What an open file was planned on. -/
theorem planned_openFile {flags : OpenFlags} {permissions : UInt32}
    {file : FileId}
    (known : site.driver.mounted = some before)
    (run : (Volume.serve (.openFile text flags permissions)).run site
      = .done file after) :
    ∃ path plan, Volume.names text = .ok path
      ∧ before.openFile path flags = .ok plan
      ∧ file = plan.value ∧ after.driver = ⟨some plan.next⟩ := by
  obtain ⟨plan, made, value, driver⟩ := planned_driver run trivial
  simp only [planned, current, known, ok_bind] at made
  -- Flags that ask for nothing are refused before the path is read.
  split at made
  · cases made
  · obtain ⟨path, named, made⟩ := bind_eq_ok_iff.mp made
    exact ⟨path, plan, named, made, value, driver⟩

/-- Whatever has been asked of a volume before, a request to make a
directory, to remove one or to remove a file that is done exchanges one
entry: nothing for an empty directory, an empty directory for nothing, or a
file for nothing. The entry is in a directory, which changes by that name
alone, and neither another tree nor an open file changes. A directory that
is made and removed again, or a file that had to be new and is removed
again, leaves the tree as it was. -/
theorem one_entry_exchanged (operated : Operated site)
    (known : site.driver.mounted = some before)
    (named : Volume.names text = .ok path) :
    (∀ after, (Volume.serve (.makeDirectory text)).run site = .done () after →
      ∃ next, after.driver = ⟨some next⟩
        ∧ Alters path none (some Tree.empty) before next
        ∧ ∀ (middle last : Site Volume σ) other,
          middle.driver = after.driver →
          Volume.names other = .ok path →
          (Volume.serve (.removeDirectory other)).run middle
            = .done () last →
          last.driver = ⟨some before⟩)
    ∧ (∀ after, (Volume.serve (.removeDirectory text)).run site
        = .done () after →
      ∃ next, after.driver = ⟨some next⟩
        ∧ Alters path (some Tree.empty) none before next)
    ∧ (∀ after, (Volume.serve (.unlink text)).run site = .done () after →
      ∃ next data, after.driver = ⟨some next⟩
        ∧ Alters path (some (.file data)) none before next)
    ∧ (∀ flags permissions file after, flags.isExclusive = true →
      (Volume.serve (.openFile text flags permissions)).run site
        = .done file after →
      ∃ next, after.driver = ⟨some next⟩
        ∧ Exchanged path none (some (.file [])) before.root next.root
        ∧ ∀ (middle last : Site Volume σ) held other,
          middle.driver = ⟨some held⟩ → held.root = next.root →
          Volume.names other = .ok path →
          (Volume.serve (.unlink other)).run middle = .done () last →
          last.driver = ⟨some { held with root := before.root }⟩) := by
  have formed := (operated.contained before known).isRoot.formed
  refine ⟨?_, ?_, ?_, ?_⟩
  · intro after run
    obtain ⟨missing, root, put, driver⟩ :=
      planned_makeDirectory known named run
    refine ⟨_, driver, ⟨exchanged_put missing put, rfl⟩, ?_⟩
    intro middle last other same namedOther run
    -- The path may be spelled in another way the second time.
    have isMounted : middle.driver.mounted = some { before with root } := by
      rw [same, driver]
    obtain ⟨_, left, remove, driver⟩ :=
      planned_removeDirectory isMounted namedOther run
    cases remove.symm.trans (remove_put formed missing put)
    exact driver
  · intro after run
    obtain ⟨found, root, remove, driver⟩ :=
      planned_removeDirectory known named run
    exact ⟨_, driver, exchanged_remove formed found remove, rfl⟩
  · intro after run
    obtain ⟨data, found, root, remove, driver⟩ :=
      planned_unlink known named run
    have old : before.root.lookup path = answer (some (.file data)) := found
    exact ⟨_, data, driver, exchanged_remove formed old remove, rfl⟩
  · intro flags permissions file after exclusive run
    obtain ⟨_, plan, same, made, _, driver⟩ := planned_openFile known run
    cases named.symm.trans same
    obtain ⟨missing, put⟩ := put_of_exclusive exclusive made
    refine ⟨plan.next, driver, exchanged_put missing put, ?_⟩
    intro middle last held other holds same namedOther run
    obtain ⟨_, _, left, remove, driver⟩ := planned_unlink
      (congrArg Volume.mounted holds) namedOther run
    rw [same] at remove
    cases remove.symm.trans (remove_put formed missing put)
    exact driver

end

/-- A disk with one directory, in which a file is open. -/
def occupied : Option (Site Volume RamDisk) :=
  askedAll [⟨_, .format⟩, ⟨_, .mount⟩, ⟨_, .makeDirectory "a"⟩,
      ⟨_, .openFile "a/f" (.write ||| .create) 0⟩]
    ⟨.fresh, ⟨⟨256, 32, ∅⟩, []⟩⟩

/-- Another directory is made beside the file and removed again. -/
theorem one_entry_exchanged_sample :
    ∃ (site after last : Site Volume RamDisk) (before next : Mounted),
      Operated site ∧ site.driver.mounted = some before
      ∧ Volume.names "a/d" = .ok ["a", "d"]
      ∧ (Volume.serve (.makeDirectory "a/d")).run site = .done () after
      ∧ after.driver = ⟨some next⟩
      ∧ next.root.lookup ["a", "d"] = .ok Tree.empty
      ∧ next.handles = before.handles
      ∧ (Volume.serve (.removeDirectory "/a//d")).run after = .done () last
      ∧ last.driver = site.driver := by
  have shape : occupied.any (fun site =>
      site.driver.mounted.isSome
      ∧ (asked (.makeDirectory "a/d") site).any fun after =>
        ((Volume.serve (.makeDirectory "a/d")).run site).reply?
          = some (.ok ())
        ∧ ((Volume.serve (.removeDirectory "/a//d")).run after).reply?
          = some (.ok ())) := by
    decide +kernel
  obtain ⟨site, left, known⟩ := (Option.any_eq_true _ _).mp shape
  obtain ⟨isMounted, known⟩ := of_decide_eq_true known
  obtain ⟨before, isMounted⟩ := Option.isSome_iff_exists.mp isMounted
  obtain ⟨middle, asks, known⟩ := (Option.any_eq_true _ _).mp known
  obtain ⟨makes, removes⟩ := of_decide_eq_true known
  have operated : Operated site := (Operated.fresh _).askedAll left
  have named : Volume.names "a/d" = .ok ["a", "d"] := by decide
  obtain ⟨after, run⟩ := eq_done_of_reply? makes
  have same : middle = after := by
    rw [asked, run] at asks
    exact (Option.some.inj asks).symm
  subst same
  obtain ⟨last, back⟩ := eq_done_of_reply? removes
  obtain ⟨next, driver, alters, restores⟩ :=
    (one_entry_exchanged operated isMounted named).1 middle run
  have restored := restores middle last "/a//d" rfl (by decide) back
  refine ⟨site, middle, last, before, next, operated, isMounted, named, run,
    driver, alters.tree.since, ?_, back, ?_⟩
  · rw [alters.rest]
  · rw [restored, ← isMounted]

end MountSpace.Proofs.Volumes
