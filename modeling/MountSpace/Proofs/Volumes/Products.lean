import MountSpace.Proofs.Volumes.Renames
import MountSpace.Proofs.Volumes.Splices

/-!
# `MountSpace.Proofs.Volumes.Products`: the trees that requests make

Which tree a request makes of the one that is mounted does not depend on
how much room there is. It is said here without the operations, as what has
to be checked and how the tree is edited then (`Produces`).

* `produces_of_stores`: a tree that is planned to be stored is one that the
  request produces. `planned_of_produces`: a tree that a request produces is
  planned, if it fits.
* `produces_of_noSpace`: no room is found while a request is planned only for
  a write, and that has passed all its checks. `planned_write_of_put`: it is
  so exactly if what is written ends past the capacity.
* `Produces.length_le`: to take something out of a tree, or to open a file
  that is there, makes its image no longer.
-/

set_option autoImplicit false

namespace MountSpace.Proofs.Volumes

open Effects Trees

/-- The tree that a request makes of the one that is mounted, if it passes
all checks of its names, of what is there and of what a file is open for. -/
inductive Produces (mounted : Mounted) : {α : Type} → Request α → Tree → Prop
  | create {path : String} {flags : OpenFlags} {permissions : UInt32}
    {names : List String} {next : Tree} (some : flags.isEmpty = false)
    (named : Volume.names path = .ok names)
    (absent : mounted.root.lookup names = .error .notFound)
    (creates : flags.creates = true)
    (put : mounted.root.put names (.file []) = .ok next) :
    Produces mounted (.openFile path flags permissions) next
  | truncate {path : String} {flags : OpenFlags} {permissions : UInt32}
    {names : List String} {data : Bytes} {next : Tree}
    (some : flags.isEmpty = false) (named : Volume.names path = .ok names)
    (found : mounted.root.lookup names = .ok (.file data))
    (shared : flags.isExclusive = false) (truncates : flags.truncates = true)
    (more : data ≠ []) (put : mounted.root.put names (.file []) = .ok next) :
    Produces mounted (.openFile path flags permissions) next
  /-- A file that is there is opened, and is empty already if it is to be
  emptied. -/
  | reopen {path : String} {flags : OpenFlags} {permissions : UInt32}
    {names : List String} {data : Bytes} (some : flags.isEmpty = false)
    (named : Volume.names path = .ok names)
    (found : mounted.root.lookup names = .ok (.file data))
    (shared : flags.isExclusive = false)
    (same : flags.truncates = true → data = []) :
    Produces mounted (.openFile path flags permissions) mounted.root
  | write {file : FileId} {data old : Bytes} {position : Option Nat}
    {handle : Handle} {next : Tree}
    (isOpen : OpenToWrite mounted file handle old) (more : data ≠ [])
    (put : mounted.root.put handle.path
      (.file (old.splice (writeStart handle position old) data)) = .ok next) :
    Produces mounted (.write file data position) next
  /-- Nothing is written, which only sets the place of the next transfer. -/
  | seek {file : FileId} {position : Option Nat} {handle : Handle}
    (writable : mounted.writableHandle file = .ok handle) :
    Produces mounted (.write file [] position) mounted.root
  | makeDirectory {path : String} {names : List String} {next : Tree}
    (named : Volume.names path = .ok names)
    (absent : mounted.root.lookup names = .error .notFound)
    (put : mounted.root.put names Tree.empty = .ok next) :
    Produces mounted (.makeDirectory path) next
  | removeDirectory {path : String} {names : List String} {next : Tree}
    (named : Volume.names path = .ok names)
    (found : mounted.root.lookup names = .ok Tree.empty)
    (remove : mounted.root.remove names = .ok next) :
    Produces mounted (.removeDirectory path) next
  | unlink {path : String} {names : List String} {data : Bytes} {next : Tree}
    (named : Volume.names path = .ok names)
    (found : mounted.root.lookup names = .ok (.file data))
    (remove : mounted.root.remove names = .ok next) :
    Produces mounted (.unlink path) next
  | rename {source target : String} {here there : List String}
    {tree without next : Tree} (named : Volume.names source = .ok here)
    (namedTarget : Volume.names target = .ok there) (some : there ≠ [])
    (found : mounted.root.lookup here = .ok tree)
    (outside : ¬ here <+: there)
    (replaceable : Replaceable here there mounted.root)
    (remove : mounted.root.remove here = .ok without)
    (put : without.put there tree = .ok next) :
    Produces mounted (.rename source target) next
  /-- Something is moved to where it is. -/
  | stay {source target : String} {names : List String} {tree : Tree}
    (named : Volume.names source = .ok names)
    (namedTarget : Volume.names target = .ok names) (some : names ≠ [])
    (found : mounted.root.lookup names = .ok tree) :
    Produces mounted (.rename source target) mounted.root

/-- Requests that can only take something away: to remove something, or to
open a file that is there, be it emptied or not. -/
def Frees (root : Tree) {α : Type} : Request α → Prop
  | .unlink _ | .removeDirectory _ => True
  | .openFile path _ _ => ∃ names data, Volume.names path = .ok names
    ∧ root.lookup names = .ok (.file data)
  | _ => False

section

variable {α β : Type} {mounted : Mounted} {request : Request α} {next : Tree}

theorem Produces.aboutFiles (produces : Produces mounted request next) :
    AboutFiles request := by
  cases produces <;> trivial

theorem Frees.aboutFiles {root : Tree} (frees : Frees root request) :
    AboutFiles request := by
  cases request with
  | mount | unmount | format => exact frees.elim
  | _ => trivial

/-- What only takes something away makes the image no longer. -/
theorem Produces.length_le (formed : mounted.root.WellFormed)
    (produces : Produces mounted request next)
    (frees : Frees mounted.root request) :
    next.encode.length ≤ mounted.root.encode.length := by
  cases produces with
  | create _ named absent _ _ =>
    obtain ⟨_, _, again, found⟩ := frees
    cases named.symm.trans again
    cases absent.symm.trans found
  | truncate _ _ found _ _ _ put =>
    exact length_encode_empty_file_le formed found put
  | reopen => exact Nat.le_refl _
  | removeDirectory _ _ remove | unlink _ _ remove =>
    exact length_encode_remove_le formed remove
  | write | seek | makeDirectory | rename | stay => exact frees.elim

/-! ### Products that are planned -/

/-- A write is planned if it ends within the capacity. -/
theorem planned_write_of_put {file : FileId} {data old : Bytes}
    {position : Option Nat} {handle : Handle}
    (isOpen : OpenToWrite mounted file handle old) (more : data ≠ [])
    (put : mounted.root.put handle.path
      (.file (old.splice (writeStart handle position old) data)) = .ok next) :
    planned ⟨some mounted⟩ (.write file data position)
      = if mounted.geometry.capacity
          < writeStart handle position old + data.length
        then .error .noSpace
        else .ok ⟨rewritten mounted file handle next
          (writeStart handle position old + data.length), true,
          data.length⟩ := by
  have some : ¬ data.isEmpty = true := by simpa using more
  have target : mounted.target handle data.length position
      mounted.geometry.capacity
      = if mounted.geometry.capacity
          < writeStart handle position old + data.length
        then .error .noSpace
        else .ok (old, writeStart handle position old) := by
    rw [Mounted.target, isOpen.found]
    rfl
  simp only [planned, current, ok_bind, writableHandle_of_open isOpen,
    if_neg some, target]
  by_cases past : mounted.geometry.capacity
      < writeStart handle position old + data.length
  · rw [if_pos past, if_pos past]
    rfl
  · rw [if_neg past, if_neg past, ok_bind]
    simp only [Mounted.write, put]
    rfl

/-- What a move may find at its target passes the check of it. -/
theorem mayReplace_of_replaceable {here there : List String} {tree : Tree}
    (found : mounted.root.lookup here = .ok tree)
    (replaceable : Replaceable here there mounted.root) :
    Mounted.mayReplace tree (mounted.root.lookup there) = .ok () := by
  cases replaceable with
  | nothing absent =>
    rw [absent]
    rfl
  | file old new | directory old new =>
    cases found.symm.trans new
    rw [old]
    rfl

/-- A tree that a request produces is planned, and stored if it is another
one. But a write that ends past the capacity is not planned, and the image
of its tree is even longer. -/
theorem planned_of_produces (produces : Produces mounted request next) :
    (∃ plan, planned ⟨some mounted⟩ request = .ok plan
        ∧ plan.next.root = next
        ∧ (plan.stores = false → next = mounted.root))
      ∨ planned ⟨some mounted⟩ request = .error .noSpace
        ∧ mounted.geometry.capacity < next.encode.length := by
  cases produces with
  | @create path flags permissions names next some named absent creates put =>
    left
    refine ⟨(mounted.opening names flags).storing next mounted.nextId, ?_, rfl,
      fun kept => by cases kept⟩
    simp only [planned, some, named, ok_bind, current, Mounted.openFile,
      absent, creates, put]
    rfl
  | @truncate path flags permissions names data next some named found shared
      truncates more put =>
    left
    have more : (!data.isEmpty) = true := by simpa using more
    refine ⟨(mounted.opening names flags).storing next mounted.nextId, ?_, rfl,
      fun kept => by cases kept⟩
    simp only [planned, some, named, ok_bind, current, Mounted.openFile,
      found, shared, truncates, more, put]
    rfl
  | @reopen path flags permissions names data some named found shared same =>
    left
    have same : (flags.truncates && !data.isEmpty) = false := by
      simpa using same
    refine ⟨(mounted.opening names flags).keeping mounted.nextId, ?_, rfl,
      fun _ => rfl⟩
    simp only [planned, some, named, ok_bind, current, Mounted.openFile,
      found, shared, same]
    rfl
  | @write file data old position handle next isOpen more put =>
    have made := planned_write_of_put isOpen more put
    by_cases past : mounted.geometry.capacity
        < writeStart handle position old + data.length
    · -- The piece is a part of the image, so that is too long as well.
      rw [if_pos past] at made
      exact .inr ⟨made, Nat.lt_trans past (end_lt_of_put put)⟩
    · rw [if_neg past] at made
      exact .inl ⟨_, made, rfl, fun kept => by cases kept⟩
  | @seek file position handle writable =>
    left
    refine ⟨mounted.seek file handle position, ?_, rfl, fun _ => rfl⟩
    simp only [planned, current, ok_bind, writable]
    rfl
  | makeDirectory named absent put =>
    left
    refine ⟨mounted.storing next (), ?_, rfl, fun kept => by cases kept⟩
    simp only [planned, named, ok_bind, current, Mounted.makeDirectory,
      absent, put]
    rfl
  | @removeDirectory path names next named found remove =>
    left
    -- There is nothing to take the root out of.
    have below : ¬ names.isEmpty = true := by
      intro none
      rw [List.isEmpty_iff.mp none] at remove
      cases root : mounted.root <;> rw [root] at remove <;> cases remove
    refine ⟨mounted.storing next (), ?_, rfl, fun kept => by cases kept⟩
    simp only [planned, named, ok_bind, current, if_neg below,
      Mounted.removeDirectory, found, Tree.empty, remove]
    rfl
  | unlink named found remove =>
    left
    refine ⟨mounted.storing next (), ?_, rfl, fun kept => by cases kept⟩
    simp only [planned, named, ok_bind, current, Mounted.unlink, found,
      remove]
    rfl
  | @rename source target here there tree without next named namedTarget some
      found outside replaceable remove put =>
    left
    have different : here ≠ there := by
      rintro rfl
      exact outside (List.prefix_refl here)
    have apart : ¬ here.isPrefixOf there = true :=
      fun prefixed => outside (List.isPrefixOf_iff_prefix.mp prefixed)
    -- Everything is below the root, so the source is not the root.
    have proper : ¬ (here.isEmpty = true ∨ there.isEmpty = true) := by
      rintro (none | none)
      · rw [List.isEmpty_iff.mp none] at outside
        exact outside List.nil_prefix
      · exact some (List.isEmpty_iff.mp none)
    have made : ∃ handles, planned ⟨Option.some mounted⟩
        (.rename source target)
        = .ok (Mounted.storing { mounted with handles } next ()) := by
      simp only [planned, named, namedTarget, ok_bind, current, if_neg proper,
        Mounted.rename, found, if_neg different, if_neg apart,
        mayReplace_of_replaceable found replaceable, remove, put]
      exact ⟨_, rfl⟩
    obtain ⟨handles, made⟩ := made
    exact ⟨_, made, rfl, fun kept => by cases kept⟩
  | @stay source target names tree named namedTarget some found =>
    left
    have proper : ¬ (names.isEmpty = true ∨ names.isEmpty = true) := by
      simpa using some
    refine ⟨mounted.keeping (), ?_, rfl, fun _ => rfl⟩
    simp only [planned, named, namedTarget, ok_bind, current, if_neg proper,
      Mounted.rename, found, if_pos]
    rfl

/-! ### Plans that store a product -/

/-- A file that may be written to is told by its number. -/
theorem openToWrite_of_writableHandle {file : FileId} {handle : Handle}
    {data : Bytes} (found : mounted.root.lookup handle.path = .ok (.file data))
    (writable : mounted.writableHandle file = .ok handle) :
    OpenToWrite mounted file handle data := by
  obtain ⟨other, opened, writable⟩ := bind_eq_ok_iff.mp writable
  have entered : Keyed.get? mounted.handles file = some other := by
    rw [Mounted.handle] at opened
    split at opened
    · next entry =>
      cases opened
      exact entry
    · cases opened
  split at writable
  · cases writable
  · next allowed =>
    cases writable
    exact ⟨entered, by simpa using allowed, found⟩

theorem produces_of_openFile {path : String} {names : List String}
    {flags : OpenFlags} {permissions : UInt32} {plan : Plan FileId}
    (some : flags.isEmpty = false) (named : Volume.names path = .ok names)
    (made : mounted.openFile names flags = .ok plan)
    (stores : plan.stores = true) :
    Produces mounted (.openFile path flags permissions) plan.next.root := by
  rw [Mounted.openFile] at made
  split at made
  · cases made
  · next data found =>
    split at made
    · cases made
    · next shared =>
      split at made
      · next empties =>
        obtain ⟨next, put, made⟩ := bind_eq_ok_iff.mp made
        cases made
        have asked : flags.truncates = true ∧ data ≠ [] := by
          simpa using empties
        exact .truncate some named found (eq_false_of_ne_true shared) asked.1
          asked.2 put
      · cases made
        cases stores
  · next absent =>
    split at made
    · next creates =>
      obtain ⟨next, put, made⟩ := bind_eq_ok_iff.mp made
      cases made
      exact .create some named absent creates put
    · cases made
  · cases made

theorem produces_of_rename {source target : String}
    {here there : List String} {plan : Plan Unit}
    (named : Volume.names source = .ok here)
    (namedTarget : Volume.names target = .ok there) (some : there ≠ [])
    (made : mounted.rename here there = .ok plan)
    (stores : plan.stores = true) :
    Produces mounted (.rename source target) plan.next.root := by
  cases rename_eq_ok made with
  | stay => cases stores
  | move found _ outside allowed remove put =>
    exact .rename named namedTarget some found outside
      (replaceable_of_mayReplace found allowed) remove put

/-- A tree that is to be stored is one that the request produces. -/
theorem produces_of_stores {plan : Plan α}
    (made : planned ⟨some mounted⟩ request = .ok plan)
    (stores : plan.stores = true) :
    Produces mounted request plan.next.root := by
  cases request with
  | mount | unmount | format => cases made
  | openFile path flags permissions =>
    rw [planned] at made
    split at made
    · cases made
    · next some =>
      obtain ⟨names, named, made⟩ := bind_eq_ok_iff.mp made
      exact produces_of_openFile (eq_false_of_ne_true some) named made stores
  | read file length position =>
    obtain ⟨_, _, _, _, _, _, rfl⟩ := read_eq_ok made
    cases stores
  | write file data position =>
    obtain ⟨_, known, made⟩ := bind_eq_ok_iff.mp made
    cases known
    obtain ⟨handle, writable, made⟩ := bind_eq_ok_iff.mp made
    split at made
    · cases made
      cases stores
    · next more =>
      obtain ⟨⟨old, start⟩, target, made⟩ := bind_eq_ok_iff.mp made
      obtain ⟨found, rfl, _⟩ := target_eq_ok target
      obtain ⟨next, put, made⟩ := bind_eq_ok_iff.mp made
      cases made
      exact .write (openToWrite_of_writableHandle found writable)
        (by simpa using more) put
  | close file =>
    obtain ⟨_, _, made⟩ := bind_eq_ok_iff.mp made
    obtain ⟨_, _, made⟩ := bind_eq_ok_iff.mp made
    cases made
    cases stores
  | stat path =>
    obtain ⟨_, _, made⟩ := bind_eq_ok_iff.mp made
    obtain ⟨_, _, made⟩ := bind_eq_ok_iff.mp made
    obtain ⟨_, _, made⟩ := bind_eq_ok_iff.mp made
    cases made
    cases stores
  | makeDirectory path =>
    obtain ⟨names, named, made⟩ := bind_eq_ok_iff.mp made
    obtain ⟨absent, next, put, rfl⟩ := makeDirectory_eq_ok made
    exact .makeDirectory named absent put
  | removeDirectory path =>
    obtain ⟨names, named, made⟩ := bind_eq_ok_iff.mp made
    split at made
    · cases made
    · obtain ⟨found, next, remove, rfl⟩ := removeDirectory_eq_ok made
      exact .removeDirectory named found remove
  | list path =>
    obtain ⟨_, _, made⟩ := bind_eq_ok_iff.mp made
    obtain ⟨_, _, made⟩ := bind_eq_ok_iff.mp made
    obtain ⟨tree, _, made⟩ := bind_eq_ok_iff.mp made
    cases tree with
    | file data => cases made
    | directory entries =>
      cases made
      cases stores
  | rename source target =>
    obtain ⟨here, named, made⟩ := bind_eq_ok_iff.mp made
    obtain ⟨there, namedTarget, made⟩ := bind_eq_ok_iff.mp made
    split at made
    · cases made
    · next proper =>
      have some : there ≠ [] :=
        fun none => proper (.inr (List.isEmpty_iff.mpr none))
      exact produces_of_rename named namedTarget some made stores
  | unlink path =>
    obtain ⟨names, named, made⟩ := bind_eq_ok_iff.mp made
    obtain ⟨data, found, next, remove, rfl⟩ := unlink_eq_ok made
    exact .unlink named found remove

/-! ### Plans for which there is no room -/

/-- An answer that is not that there is no room. -/
def Roomy (answer : Except Fault α) : Prop := answer ≠ .error .noSpace

theorem roomy_ok (value : α) : Roomy (.ok value) := by
  intro full
  cases full

theorem roomy_error {fault : Fault} (other : fault ≠ .noSpace) :
    Roomy (.error fault : Except Fault α) := by
  intro full
  cases full
  exact other rfl

theorem Roomy.bind {answer : Except Fault α} {next : α → Except Fault β}
    (first : Roomy answer)
    (second : ∀ value, answer = .ok value → Roomy (next value)) :
    Roomy (answer >>= next) := by
  cases answer with
  | ok value => exact second value rfl
  | error fault =>
    refine roomy_error ?_
    rintro rfl
    exact first rfl

/-- A fault that is passed on. -/
theorem Roomy.fault {answer : Except Fault α} {fault : Fault}
    (roomy : Roomy answer) (found : answer = .error fault) :
    Roomy (.error fault : Except Fault β) := by
  refine roomy_error ?_
  rintro rfl
  exact roomy found

theorem roomy_names (text : String) : Roomy (Volume.names text) := by
  simp only [Volume.names]
  generalize (Path.normalForm _).names = found
  split
  · exact roomy_error (by decide)
  · exact roomy_ok found

theorem roomy_lookup (root : Tree) (path : List String) :
    Roomy (root.lookup path) := by
  fun_induction Tree.lookup root path with
  | case1 root => exact roomy_ok root
  | case2 data name rest => exact roomy_error (by decide)
  | case3 entries name rest child entry ih => exact ih
  | case4 entries name rest none => exact roomy_error (by decide)

theorem roomy_editEntries
    (change : String → Keyed String Tree → Keyed String Tree) (root : Tree)
    (path : List String) : Roomy (root.editEntries change path) := by
  fun_induction Tree.editEntries change root path with
  | case1 root => exact roomy_error (by decide)
  | case2 data name rest => exact roomy_error (by decide)
  | case3 entries name => exact roomy_ok _
  | case4 entries name next rest child entry ih =>
    exact ih.bind fun _ _ => roomy_ok _
  | case5 entries name next rest none => exact roomy_error (by decide)

theorem roomy_handle (mounted : Mounted) (file : FileId) :
    Roomy (mounted.handle file) := by
  rw [Mounted.handle]
  split
  · exact roomy_ok _
  · exact roomy_error (by decide)

theorem roomy_writableHandle (mounted : Mounted) (file : FileId) :
    Roomy (mounted.writableHandle file) := by
  refine (roomy_handle mounted file).bind fun handle _ => ?_
  by_cases readOnly : (!handle.flags.writable) = true
  · rw [if_pos readOnly]
    exact roomy_error (by decide)
  · rw [if_neg readOnly]
    exact roomy_ok handle

theorem roomy_openFile (mounted : Mounted) (path : List String)
    (flags : OpenFlags) : Roomy (mounted.openFile path flags) := by
  have emptied : Roomy (do
      let root ← mounted.root.put path (.file [])
      return (mounted.opening path flags).storing root mounted.nextId) :=
    (roomy_editEntries _ _ _).bind fun _ _ => roomy_ok _
  rw [Mounted.openFile]
  split
  · exact roomy_error (by decide)
  · split
    · exact roomy_error (by decide)
    · split
      · exact emptied
      · exact roomy_ok _
  · split
    · exact emptied
    · exact roomy_error (by decide)
  · next fault _ found => exact (roomy_lookup _ _).fault found

theorem roomy_read (mounted : Mounted) (file : FileId) (length : Nat)
    (position : Option Nat) : Roomy (mounted.read file length position) := by
  refine (roomy_handle mounted file).bind fun handle _ => ?_
  by_cases writeOnly : (!handle.flags.readable) = true
  · rw [if_pos writeOnly]
    exact roomy_error (by decide)
  · rw [if_neg writeOnly]
    refine (roomy_lookup _ _).bind fun tree _ => ?_
    cases tree with
    | directory entries => exact roomy_error (by decide)
    | file data => exact roomy_ok _

theorem roomy_makeDirectory (mounted : Mounted) (path : List String) :
    Roomy (mounted.makeDirectory path) := by
  rw [Mounted.makeDirectory]
  split
  · exact roomy_error (by decide)
  · exact (roomy_editEntries _ _ _).bind fun _ _ => roomy_ok _
  · next fault _ found => exact (roomy_lookup _ _).fault found

theorem roomy_removeDirectory (mounted : Mounted) (path : List String) :
    Roomy (mounted.removeDirectory path) := by
  refine (roomy_lookup _ _).bind fun tree _ => ?_
  split
  · exact roomy_error (by decide)
  · exact roomy_error (by decide)
  · exact (roomy_editEntries _ _ _).bind fun _ _ => roomy_ok _

theorem roomy_list (mounted : Mounted) (path : List String) :
    Roomy (mounted.list path) := by
  refine (roomy_lookup _ _).bind fun tree _ => ?_
  cases tree with
  | file data => exact roomy_error (by decide)
  | directory entries => exact roomy_ok _

theorem roomy_mayReplace (source : Tree) {there : Except Fault Tree}
    (roomy : Roomy there) : Roomy (Mounted.mayReplace source there) := by
  unfold Mounted.mayReplace
  split
  · split
    · exact roomy_error (by decide)
    · split
      · exact roomy_error (by decide)
      · exact roomy_ok ()
  · split
    · exact roomy_error (by decide)
    · exact roomy_ok ()
  · exact roomy_ok ()
  · exact roomy.fault rfl

theorem roomy_rename (mounted : Mounted) (source target : List String) :
    Roomy (mounted.rename source target) := by
  refine (roomy_lookup _ _).bind fun tree _ => ?_
  split
  · exact roomy_ok _
  · split
    · exact roomy_error (by decide)
    · refine (roomy_mayReplace tree (roomy_lookup _ _)).bind fun _ _ => ?_
      refine (roomy_editEntries _ _ _).bind fun _ _ => ?_
      exact (roomy_editEntries _ _ _).bind fun _ _ => roomy_ok _

theorem roomy_unlink (mounted : Mounted) (path : List String) :
    Roomy (mounted.unlink path) := by
  refine (roomy_lookup _ _).bind fun tree _ => ?_
  cases tree with
  | directory entries => exact roomy_error (by decide)
  | file data => exact (roomy_editEntries _ _ _).bind fun _ _ => roomy_ok _

/-- No file is at the root. -/
theorem ne_nil_of_lookup_file {root : Tree} {path : List String} {data : Bytes}
    (isRoot : IsRoot root) (found : root.lookup path = .ok (.file data)) :
    path ≠ [] := by
  rintro rfl
  cases found
  cases isRoot.directory

/-- Only of a write it is found before it has a tree that there is no
room. -/
theorem produces_of_noSpace (isRoot : IsRoot mounted.root)
    (full : planned ⟨some mounted⟩ request = .error .noSpace) :
    ∃ next, Produces mounted request next := by
  have atNames {text : String} {plan : List String → Except Fault (Plan α)}
      (roomy : ∀ names, Roomy (plan names)) :
      Roomy (Volume.names text >>= plan) :=
    (roomy_names text).bind fun names _ => roomy names
  cases request with
  | mount | unmount | format => cases full
  | openFile path flags permissions =>
    rw [planned] at full
    split at full
    · cases full
    · exact absurd full (atNames fun _ => roomy_openFile _ _ _)
  | read file length position => exact absurd full (roomy_read _ _ _ _)
  | close file =>
    exact absurd full ((roomy_handle _ _).bind fun _ _ => roomy_ok _)
  | stat path =>
    exact absurd full
      (atNames fun _ => (roomy_lookup _ _).bind fun _ _ => roomy_ok _)
  | makeDirectory path =>
    exact absurd full (atNames fun _ => roomy_makeDirectory _ _)
  | removeDirectory path =>
    refine absurd full (atNames fun names => ?_)
    split
    · exact roomy_error (by decide)
    · exact roomy_removeDirectory _ _
  | list path => exact absurd full (atNames fun _ => roomy_list _ _)
  | rename source target =>
    refine absurd full (atNames fun here => atNames fun there => ?_)
    split
    · exact roomy_error (by decide)
    · exact roomy_rename _ _ _
  | unlink path => exact absurd full (atNames fun _ => roomy_unlink _ _)
  | write file data position =>
    rw [planned, current, ok_bind] at full
    cases writable : mounted.writableHandle file with
    | error fault =>
      rw [writable] at full
      exact absurd full ((roomy_writableHandle _ _).fault writable)
    | ok handle =>
      rw [writable, ok_bind] at full
      split at full
      · cases full
      · next more =>
        cases found : mounted.root.lookup handle.path with
        | error fault =>
          rw [Mounted.target, found] at full
          exact absurd full ((roomy_lookup _ _).fault found)
        | ok tree =>
          cases tree with
          | directory entries =>
            rw [Mounted.target, found] at full
            cases full
          | file old =>
            -- Whether it fits or not, all checks are passed by now.
            obtain ⟨next, put⟩ := put_of_lookup found
              (ne_nil_of_lookup_file isRoot found)
              (.file (old.splice (writeStart handle position old) data))
            exact ⟨next, .write (openToWrite_of_writableHandle found writable)
              (by simpa using more) put⟩

end

end MountSpace.Proofs.Volumes
