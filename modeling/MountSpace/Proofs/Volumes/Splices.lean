import MountSpace.Proofs.Storage.Reliable
import MountSpace.Proofs.Trees.Sizes
import MountSpace.Proofs.Trees.Views
import MountSpace.Proofs.Volumes.Nodes
import MountSpace.Proofs.Volumes.Transfers

/-!
# `MountSpace.Proofs.Volumes.Splices`: what a write makes of a file

A write puts a piece over the contents of a file, from the end of the file,
the position or the place of the next transfer on. Nothing else that can be
seen of the tree changes, and no other open file.

* `planned_write`: what is planned for a write.
* `write_done_iff`: on a device that does not fail, a write is done exactly
  when the tree that it makes fits. The bound that is checked before, on
  where the write ends, never refuses a write that fits.
* `write_splices`: what a write leaves, and that two writes one after the
  other are as good as one.
-/

set_option autoImplicit false

namespace MountSpace.Proofs.Volumes

open Effects Storage Trees

/-! ### Files open for writing -/

/-- A file that may be written to, with its contents. -/
structure OpenToWrite (mounted : Mounted) (file : FileId) (handle : Handle)
    (data : Bytes) : Prop where
  opened : Keyed.get? mounted.handles file = some handle
  writable : handle.flags.writable = true
  found : mounted.root.lookup handle.path = .ok (.file data)

/-- What is mounted with a new tree, and another place for the next transfer
of an open file. -/
def rewritten (mounted : Mounted) (file : FileId) (handle : Handle)
    (root : Tree) (cursor : Nat) : Mounted :=
  { mounted with
    root
    handles := Keyed.insert mounted.handles file { handle with cursor } }

section

variable {mounted : Mounted} {file : FileId} {handle : Handle}
  {data piece : Bytes} {position : Option Nat} {root : Tree}

theorem writableHandle_of_open (isOpen : OpenToWrite mounted file handle data) :
    mounted.writableHandle file = .ok handle := by
  simp only [Mounted.writableHandle, handle_of_get? isOpen.opened, ok_bind,
    isOpen.writable]
  rfl

/-- What is written goes into the file, and the next transfer starts behind
it. -/
theorem planned_write (isOpen : OpenToWrite mounted file handle data)
    (more : piece ≠ []) {plan : Plan Nat}
    (made : planned ⟨some mounted⟩ (.write file piece position) = .ok plan) :
    ∃ root, mounted.root.put handle.path
        (.file (data.splice (writeStart handle position data) piece))
        = .ok root
      ∧ plan = ⟨rewritten mounted file handle root
          (writeStart handle position data + piece.length), true,
        piece.length⟩ := by
  obtain ⟨_, known, made⟩ := bind_eq_ok_iff.mp made
  cases known
  obtain ⟨_, writable, made⟩ := bind_eq_ok_iff.mp made
  cases writable.symm.trans (writableHandle_of_open isOpen)
  rw [if_neg (by simpa using more)] at made
  obtain ⟨⟨old, start⟩, target, made⟩ := bind_eq_ok_iff.mp made
  obtain ⟨found, rfl, _⟩ := target_eq_ok target
  cases found.symm.trans isOpen.found
  obtain ⟨root, put, made⟩ := bind_eq_ok_iff.mp made
  cases made
  exact ⟨root, put, rfl⟩

/-- A piece of a file ends before the image of the tree does. -/
theorem end_lt_of_put {start : Nat}
    (put : mounted.root.put handle.path (.file (data.splice start piece))
      = .ok root) : start + piece.length < root.encode.length := by
  have image := length_encode_le_of_lookup (lookup_put put)
  rw [Image.encode_file] at image
  simp only [List.length_cons, List.length_append] at image
  have whole := Bytes.length_splice data start piece
  omega

/-- The tree that a write makes, if a device of this geometry has room for
it. -/
structure Makes (mounted : Mounted) (handle : Handle) (written : Bytes)
    (root : Tree) : Prop where
  put : mounted.root.put handle.path (.file written) = .ok root
  room : root.encode.length ≤ mounted.geometry.capacity
  short : root.encode.length < fieldLimit

variable {σ : Type} [BlockDevice σ] {site after : Site Volume σ}

/-- A write that is done has made its tree, on any device. -/
theorem makes_of_done (known : site.driver = ⟨some mounted⟩)
    (isOpen : OpenToWrite mounted file handle data) (more : piece ≠ [])
    {count : Nat} (run : (Volume.serve (.write file piece position)).run site
      = .done count after) :
    count = piece.length
      ∧ ∃ root, Makes mounted handle
          (data.splice (writeStart handle position data) piece) root
        ∧ after.driver = ⟨some (rewritten mounted file handle root
          (writeStart handle position data + piece.length))⟩
        ∧ (root.store mounted.geometry).run site.medium
          = .done () after.medium := by
  obtain ⟨plan, made, run⟩ := planned_of_done run trivial
  rw [known] at made
  obtain ⟨root, put, rfl⟩ := planned_write isOpen more made
  obtain ⟨rfl, driver, stored⟩ := performed_of_done run
  have store : (root.store mounted.geometry).run site.medium
      = .done () after.medium := stored rfl
  have roomy := ensures_store_room mounted.geometry root site.medium trivial
  rw [store] at roomy
  exact ⟨rfl, root, ⟨put, roomy.1, roomy.2.image⟩, driver, store⟩

/-- If the tree that a write makes fits, the write comes to storing it. -/
theorem run_write_of_makes (known : site.driver = ⟨some mounted⟩)
    (readable : Readable mounted.geometry)
    (isOpen : OpenToWrite mounted file handle data) (more : piece ≠ [])
    (makes : Makes mounted handle
      (data.splice (writeStart handle position data) piece) root) :
    (Volume.serve (.write file piece position)).run site
      = (Volume.perform ⟨rewritten mounted file handle root
          (writeStart handle position data + piece.length), true,
          piece.length⟩).run site := by
  obtain ⟨put, fits, short⟩ := makes
  -- The piece ends before the image does, so it is within the capacity, and
  -- short enough to be held.
  have ends := end_lt_of_put put
  have room : mounted.geometry.room
      = (pure mounted.geometry.capacity : Action (Site Volume σ) Nat) :=
    room_eq_pure readable
  have small : writeStart handle position data + piece.length < sizeLimit := by
    simp only [fieldLimit, sizeLimit] at *
    omega
  have target : mounted.target handle piece.length position
      mounted.geometry.capacity
      = .ok (data, writeStart handle position data) := by
    have inside : ¬ mounted.geometry.capacity
        < writeStart handle position data + piece.length := by omega
    rw [writeStart] at inside
    simp only [Mounted.target, isOpen.found, ok_bind, if_neg inside]
    rfl
  have plan : mounted.write file handle data
      (writeStart handle position data) piece
      = .ok ⟨rewritten mounted file handle root
          (writeStart handle position data + piece.length), true,
          piece.length⟩ := by
    rw [Mounted.write, put]
    rfl
  have some : ¬ piece.isEmpty = true := by simpa using more
  simp only [Volume.serve, Volume.write, Action.run_bind, run_getMounted,
    known, current, Action.run_ofExcept_ok, writableHandle_of_open isOpen,
    if_neg some, room, Action.run_pure, target, Action.run_reserve small, plan]

/-- A write of nothing sets the place of the next transfer, and asks no
device. -/
theorem run_write_nil (known : site.driver = ⟨some mounted⟩)
    (isOpen : OpenToWrite mounted file handle data) :
    (Volume.serve (.write file [] position)).run site
      = .done 0 { site with driver := ⟨some (rewritten mounted file handle
          mounted.root (position.getD handle.cursor))⟩ } := by
  simp only [Volume.serve, Volume.write, Action.run_bind, run_getMounted,
    known, current, Action.run_ofExcept_ok, writableHandle_of_open isOpen]
  rfl

/-! ### A device that does not fail -/

section

variable {works : σ → Prop} (reliable : Reliable mounted.geometry works)
  (readable : Readable mounted.geometry)

include reliable readable

/-- A device that does not fail still works after a write. -/
theorem works_of_done (working : works site.medium.device)
    (known : site.driver = ⟨some mounted⟩)
    (isOpen : OpenToWrite mounted file handle data) (more : piece ≠ [])
    {count : Nat} (run : (Volume.serve (.write file piece position)).run site
      = .done count after) : works after.medium.device := by
  obtain ⟨_, root, makes, _, store⟩ := makes_of_done known isOpen more run
  obtain ⟨medium, same, working⟩ :=
    (store_done_iff reliable readable working).mpr ⟨makes.room, makes.short⟩
  cases store.symm.trans same
  exact working

/-- On such a device a write is done exactly when the tree that it makes
fits. -/
theorem write_done_iff (working : works site.medium.device)
    (known : site.driver = ⟨some mounted⟩)
    (isOpen : OpenToWrite mounted file handle data) (more : piece ≠ []) :
    (∃ count after, (Volume.serve (.write file piece position)).run site
        = .done count after)
      ↔ ∃ root, Makes mounted handle
        (data.splice (writeStart handle position data) piece) root := by
  constructor
  · rintro ⟨count, after, run⟩
    obtain ⟨_, root, makes, _⟩ := makes_of_done known isOpen more run
    exact ⟨root, makes⟩
  · rintro ⟨root, makes⟩
    obtain ⟨medium, store, _⟩ :=
      (store_done_iff reliable readable working).mpr ⟨makes.room, makes.short⟩
    rw [run_write_of_makes known readable isOpen more makes]
    exact ⟨_, _, run_perform_of_store rfl store⟩

end

/-! ### One write and two -/

/-- What is mounted between two writes, the second of which goes on where
the first one has ended. The tree is `root`, and the file in it holds
`between`. -/
structure HalfWay (mounted : Mounted) (file : FileId) (handle : Handle)
    (data : Bytes) (start : Nat) (first : Bytes) (root : Tree) (cursor : Nat)
    (between : Bytes) : Prop where
  isOpen : OpenToWrite (rewritten mounted file handle root cursor) file
    { handle with cursor } between
  resumes : writeStart { handle with cursor } none between
    = start + first.length
  same (second : Bytes) :
    root.put handle.path
        (.file (between.splice (start + first.length) second))
      = mounted.root.put handle.path
        (.file (data.splice start (first ++ second)))

/-- After a write of nothing the second write is the whole one. -/
theorem halfWay_nil (isOpen : OpenToWrite mounted file handle data) :
    HalfWay mounted file handle data (writeStart handle position data) []
      mounted.root (position.getD handle.cursor) data := by
  refine ⟨⟨?_, isOpen.writable, isOpen.found⟩, rfl, fun second => rfl⟩
  exact Keyed.get?_insert_self ..

/-- After a write of something the second write starts behind it, be it at
the end of the file or not. -/
theorem halfWay_of_put (isOpen : OpenToWrite mounted file handle data)
    (put : mounted.root.put handle.path
      (.file (data.splice (writeStart handle position data) piece))
      = .ok root) :
    HalfWay mounted file handle data (writeStart handle position data) piece
      root (writeStart handle position data + piece.length)
      (data.splice (writeStart handle position data) piece) := by
  refine ⟨⟨?_, isOpen.writable, lookup_put put⟩, ?_, fun second => ?_⟩
  · exact Keyed.get?_insert_self ..
  · have length := Bytes.length_splice data (writeStart handle position data)
      piece
    rw [writeStart]
    split
    · next appends =>
      -- The end of the file is the end of the first piece.
      rw [length, writeStart, if_pos appends]
      omega
    · rfl
  · rw [put_put put, Bytes.splice_splice]

theorem rewritten_rewritten (root next : Tree) (cursor last : Nat) :
    rewritten (rewritten mounted file handle root cursor) file
        { handle with cursor } next last
      = rewritten mounted file handle next last := by
  simp only [rewritten, Keyed.insert_insert]

section

variable {start cursor : Nat} {first second between : Bytes}

/-- The second write makes the tree that one write of both pieces makes. -/
theorem HalfWay.makes_iff
    (half : HalfWay mounted file handle data start first root cursor between)
    {last : Tree} :
    Makes (rewritten mounted file handle root cursor) { handle with cursor }
        (between.splice (start + first.length) second) last
      ↔ Makes mounted handle (data.splice start (first ++ second)) last := by
  have same := half.same second
  constructor
  · rintro ⟨put, room, short⟩
    exact ⟨same.symm.trans put, room, short⟩
  · rintro ⟨put, room, short⟩
    exact ⟨same.trans put, room, short⟩

/-- And what it leaves mounted is what that leaves. -/
theorem HalfWay.driver_eq {middle whole : Site Volume σ}
    (half : HalfWay mounted file handle data (writeStart handle position data)
      first root cursor between)
    (known : site.driver = ⟨some mounted⟩)
    (knownMiddle : middle.driver
      = ⟨some (rewritten mounted file handle root cursor)⟩)
    (isOpen : OpenToWrite mounted file handle data) (more : second ≠ [])
    {count last : Nat}
    (run : (Volume.serve (.write file (first ++ second) position)).run site
      = .done count whole)
    (runSecond : (Volume.serve (.write file second none)).run middle
      = .done last after) : whole.driver = after.driver := by
  have moreWhole : first ++ second ≠ [] :=
    List.append_ne_nil_of_right_ne_nil first more
  obtain ⟨_, whole, makes, driver, _⟩ :=
    makes_of_done known isOpen moreWhole run
  obtain ⟨_, other, makesOther, driverOther, _⟩ :=
    makes_of_done knownMiddle half.isOpen more runSecond
  rw [half.resumes] at makesOther driverOther
  cases makes.put.symm.trans (half.makes_iff.mp makesOther).put
  rw [driver, driverOther, rewritten_rewritten, List.length_append,
    Nat.add_assoc]

/-- A tree in which the file is shorter has room where the longer one
has. -/
theorem makes_of_append (formed : mounted.root.WellFormed)
    (found : mounted.root.lookup handle.path = .ok (.file data))
    {whole : Tree}
    (makes : Makes mounted handle (data.splice start (first ++ second)) whole) :
    ∃ root, Makes mounted handle (data.splice start first) root := by
  obtain ⟨put, room, short⟩ := makes
  have below : handle.path ≠ [] := by
    intro none
    rw [none] at put
    cases mounted.root <;> nomatch put
  obtain ⟨root, putFirst⟩ :=
    put_of_lookup found below (.file (data.splice start first))
  -- Both images are that of the old tree but for the file, and that is the
  -- longer of what it was and where the write ends.
  have size := length_encode_replace formed found put
  have sizeFirst := length_encode_replace formed found putFirst
  simp only [Image.encode_file, List.length_cons, List.length_append,
    Bytes.length_littleEndian, Bytes.length_splice] at size sizeFirst
  exact ⟨root, putFirst, by omega, by omega⟩

end

end

/-! ### What a write leaves -/

/-- What is mounted after a piece has been written to an open file, from the
start on. -/
structure Spliced (before after : Mounted) (file : FileId) (handle : Handle)
    (data : Bytes) (start : Nat) (piece : Bytes) : Prop where
  /-- The old bytes up to the start, zeros if the file ended before it, the
  piece, and the old bytes behind it. -/
  contents : after.root.lookup handle.path = .ok (.file
    (data.take (min start data.length)
      ++ (Bytes.zeros (start - data.length)
        ++ (piece ++ data.drop (min (start + piece.length) data.length)))))
  cursor : Keyed.get? after.handles file
    = some { handle with cursor := start + piece.length }
  elsewhere : ∀ path, path ≠ handle.path →
    viewAt after.root path = viewAt before.root path
  others : ∀ other, other ≠ file →
    Keyed.get? after.handles other = Keyed.get? before.handles other
  nextId : after.nextId = before.nextId
  geometry : after.geometry = before.geometry

theorem splice_eq (data : Bytes) (start : Nat) (piece : Bytes) :
    data.splice start piece
      = data.take (min start data.length)
        ++ (Bytes.zeros (start - data.length)
          ++ (piece ++ data.drop (min (start + piece.length) data.length))) := by
  have taken : data.take (min start data.length) = data.take start := by
    rw [List.take_eq_take_iff]
    omega
  have dropped : data.drop (min (start + piece.length) data.length)
      = data.drop (start + piece.length) := by
    rw [List.drop_eq_drop_iff]
    omega
  rw [Bytes.splice, taken, dropped]

section

variable {mounted : Mounted} {file : FileId} {handle : Handle}
  {data piece : Bytes} {root : Tree} {start : Nat}

theorem spliced_of_makes (formed : mounted.root.WellFormed)
    (found : mounted.root.lookup handle.path = .ok (.file data))
    (makes : Makes mounted handle (data.splice start piece) root) :
    Spliced mounted
      (rewritten mounted file handle root (start + piece.length)) file handle
      data start piece := by
  have there := lookup_put makes.put
  rw [splice_eq] at there
  refine ⟨there, ?_, fun path different => ?_, fun other different => ?_, rfl,
    rfl⟩
  · exact Keyed.get?_insert_self ..
  · exact (viewAt_put_file formed found makes.put).trans (if_neg different)
  · exact Keyed.get?_insert_of_ne _ (Ne.symm different) _

variable {σ : Type} [BlockDevice σ] {site middle : Site Volume σ}
  {first second : Bytes} {position : Option Nat} {count : Nat}

/-- A first write that is done leads half way, be it of nothing. -/
theorem halfWay_of_done (known : site.driver = ⟨some mounted⟩)
    (isOpen : OpenToWrite mounted file handle data)
    (run : (Volume.serve (.write file first position)).run site
      = .done count middle) :
    ∃ root cursor between,
      middle.driver = ⟨some (rewritten mounted file handle root cursor)⟩
      ∧ HalfWay mounted file handle data (writeStart handle position data)
        first root cursor between := by
  by_cases none : first = []
  · subst none
    rw [run_write_nil known isOpen] at run
    cases run
    exact ⟨_, _, _, rfl, halfWay_nil isOpen⟩
  · obtain ⟨_, root, makes, driver, _⟩ :=
      makes_of_done known isOpen none run
    exact ⟨root, _, _, driver, halfWay_of_put isOpen makes.put⟩

section

variable {works : σ → Prop} (reliable : Reliable mounted.geometry works)
  (readable : Readable mounted.geometry)
  (working : works site.medium.device) (known : site.driver = ⟨some mounted⟩)
  (isOpen : OpenToWrite mounted file handle data)

include reliable readable working known isOpen

/-- A device that does not fail still works half way. -/
theorem works_of_first
    (run : (Volume.serve (.write file first position)).run site
      = .done count middle) : works middle.medium.device := by
  by_cases none : first = []
  · subst none
    rw [run_write_nil known isOpen] at run
    cases run
    exact working
  · exact works_of_done reliable readable working known isOpen none run

/-- Once the first write is done, the second one is done exactly when one
write of both pieces is. -/
theorem second_done_iff
    (run : (Volume.serve (.write file first position)).run site
      = .done count middle) :
    (∃ last after, (Volume.serve (.write file second none)).run middle
        = .done last after)
      ↔ ∃ count after, (Volume.serve
          (.write file (first ++ second) position)).run site
        = .done count after := by
  obtain ⟨root, cursor, between, driver, half⟩ :=
    halfWay_of_done known isOpen run
  by_cases none : second = []
  · subst none
    rw [List.append_nil]
    exact ⟨fun _ => ⟨count, middle, run⟩,
      fun _ => ⟨_, _, run_write_nil driver half.isOpen⟩⟩
  · have more : first ++ second ≠ [] :=
      List.append_ne_nil_of_right_ne_nil first none
    have worksMiddle :=
      works_of_first reliable readable working known isOpen run
    have reliableMiddle :
        Reliable (rewritten mounted file handle root cursor).geometry works :=
      reliable
    rw [write_done_iff reliableMiddle readable worksMiddle driver half.isOpen
      none, write_done_iff reliable readable working known isOpen more,
      half.resumes]
    exact exists_congr fun _ => half.makes_iff

omit reliable readable working in
/-- What both writes leave mounted is what one write of both pieces
leaves. -/
theorem second_driver_eq {whole last : Site Volume σ} {all rest : Nat}
    (run : (Volume.serve (.write file first position)).run site
      = .done count middle)
    (runSecond : (Volume.serve (.write file second none)).run middle
      = .done rest last)
    (runWhole : (Volume.serve (.write file (first ++ second) position)).run
      site = .done all whole) : whole.driver = last.driver := by
  obtain ⟨root, cursor, between, driver, half⟩ :=
    halfWay_of_done known isOpen run
  by_cases none : second = []
  · subst none
    rw [List.append_nil] at runWhole
    cases run.symm.trans runWhole
    -- The place is set to where it is.
    rw [run_write_nil driver half.isOpen] at runSecond
    cases runSecond
    refine driver.trans ?_
    exact congrArg (fun mounted => Volume.mk (some mounted))
      (rewritten_rewritten root root cursor cursor).symm
  · exact half.driver_eq known driver isOpen none runWhole runSecond

/-- The first write is done if one write of both pieces is. -/
theorem first_done_of_whole (formed : mounted.root.WellFormed)
    (done : ∃ count after, (Volume.serve
      (.write file (first ++ second) position)).run site = .done count after) :
    ∃ count after, (Volume.serve (.write file first position)).run site
      = .done count after := by
  by_cases none : first = []
  · subst none
    exact ⟨_, _, run_write_nil known isOpen⟩
  · have more : first ++ second ≠ [] :=
      List.append_ne_nil_of_left_ne_nil none second
    rw [write_done_iff reliable readable working known isOpen more] at done
    rw [write_done_iff reliable readable working known isOpen none]
    obtain ⟨_, makes⟩ := done
    exact makes_of_append formed isOpen.found makes

end

end

/-- A write of a piece that is done answers its length, puts it into the
file, with zeros before it if the file is shorter, and moves the place of
the next transfer behind it. Nothing else is seen to change, of the tree or
of other open files. A write of nothing sets the place of the next transfer
and does nothing else. On a device that does not fail, one write of two
pieces is done exactly when the first piece can be written, and then the
second one from there on, and that comes to the same. -/
theorem write_splices {σ : Type} [BlockDevice σ] {site : Site Volume σ}
    (operated : Operated site) {before : Mounted}
    (known : site.driver.mounted = some before) {file : FileId}
    {handle : Handle} {data : Bytes}
    (isOpen : OpenToWrite before file handle data) :
    (∀ piece position count after, piece ≠ [] →
      (Volume.serve (.write file piece position)).run site
        = .done count after →
      count = piece.length
        ∧ ∃ next, after.driver = ⟨some next⟩
          ∧ Spliced before next file handle data
            (if handle.flags.appends then data.length
              else position.getD handle.cursor) piece)
    ∧ (∀ position : Option Nat,
      (Volume.serve (.write file [] position)).run site
        = .done 0 { site with driver := ⟨some { before with
            handles := Keyed.insert before.handles file
              { handle with cursor := position.getD handle.cursor } }⟩ })
    ∧ ∀ works : σ → Prop, Reliable before.geometry works →
      works site.medium.device → ∀ first second position,
      ((∃ count whole, (Volume.serve
            (.write file (first ++ second) position)).run site
          = .done count whole)
        ↔ ∃ count middle last after,
          (Volume.serve (.write file first position)).run site
            = .done count middle
          ∧ (Volume.serve (.write file second none)).run middle
            = .done last after)
      ∧ ∀ count whole part middle last after,
        (Volume.serve (.write file (first ++ second) position)).run site
          = .done count whole →
        (Volume.serve (.write file first position)).run site
          = .done part middle →
        (Volume.serve (.write file second none)).run middle
          = .done last after → whole.driver = after.driver := by
  have fits := operated.contained before known
  have formed := fits.isRoot.formed
  have driver : site.driver = ⟨some before⟩ := congrArg Volume.mk known
  refine ⟨?_, fun _ => run_write_nil driver isOpen, ?_⟩
  · intro piece position count after more run
    obtain ⟨same, root, makes, next, _⟩ := makes_of_done driver isOpen more run
    exact ⟨same, _, next, spliced_of_makes formed isOpen.found makes⟩
  · intro works reliable working first second position
    constructor
    · constructor
      · intro whole
        obtain ⟨count, middle, run⟩ := first_done_of_whole reliable
          fits.readable working driver isOpen formed whole
        obtain ⟨last, after, runSecond⟩ := (second_done_iff reliable
          fits.readable working driver isOpen run).mpr whole
        exact ⟨count, middle, last, after, run, runSecond⟩
      · rintro ⟨count, middle, last, after, run, runSecond⟩
        exact (second_done_iff reliable fits.readable working driver isOpen
          run).mp ⟨last, after, runSecond⟩
    · intro count whole part middle last after runWhole run runSecond
      exact second_driver_eq driver isOpen run runSecond runWhole

/-- A disk with one file, which is open for writing. -/
def noted : Option (Site Volume RamDisk) :=
  askedAll [⟨_, .format⟩, ⟨_, .mount⟩,
      ⟨_, .openFile "f" (.write ||| .create) 0⟩,
      ⟨_, .write 0 [1, 2, 3] none⟩]
    ⟨.fresh, ⟨⟨256, 32, ∅⟩, []⟩⟩

/-- Two bytes that are written past the end leave zeros before them, and
could be written one after the other. -/
theorem write_splices_sample :
    ∃ (site whole : Site Volume RamDisk) (before next : Mounted),
      Operated site ∧ site.driver.mounted = some before
      ∧ OpenToWrite before 0 ⟨["f"], .write ||| .create, 3⟩ [1, 2, 3]
      ∧ (Volume.serve (.write 0 [8, 9] (some 5))).run site = .done 2 whole
      ∧ whole.driver = ⟨some next⟩
      ∧ next.root.lookup ["f"] = .ok (.file [1, 2, 3, 0, 0, 8, 9])
      ∧ ∃ count middle last after,
        (Volume.serve (.write 0 [8] (some 5))).run site = .done count middle
        ∧ (Volume.serve (.write 0 [9] none)).run middle = .done last after
        ∧ whole.driver = after.driver := by
  have shape : noted.any (fun site =>
      site.driver.mounted.any (fun mounted =>
        Keyed.get? mounted.handles 0
          = some ⟨["f"], .write ||| .create, 3⟩
        ∧ fileAt mounted.root ["f"] = some [1, 2, 3]
        ∧ geometryOf site.medium.device = mounted.geometry)
      ∧ ((Volume.serve (.write 0 [8, 9] (some 5))).run site).reply?
        = some (.ok 2)) := by
    decide +kernel
  obtain ⟨site, left, known⟩ := (Option.any_eq_true _ _).mp shape
  obtain ⟨known, reply⟩ := of_decide_eq_true known
  obtain ⟨before, isMounted, known⟩ := (Option.any_eq_true _ _).mp known
  obtain ⟨handle, file, working⟩ := of_decide_eq_true known
  have operated : Operated site := (Operated.fresh _).askedAll left
  have isOpen : OpenToWrite before 0 ⟨["f"], .write ||| .create, 3⟩ [1, 2, 3] :=
    ⟨handle, by decide, fileAt_eq_some_iff.mp file⟩
  have reliable :=
    reliable_disk (operated.contained before isMounted).readable
  obtain ⟨splices, _, halves⟩ := write_splices operated isMounted isOpen
  obtain ⟨split, same⟩ := halves _ reliable working [8] [9] (some 5)
  obtain ⟨whole, run⟩ := eq_done_of_reply? reply
  obtain ⟨_, next, driver, spliced⟩ :=
    splices [8, 9] (some 5) 2 whole (by decide) run
  obtain ⟨part, middle, last, after, first, second⟩ :=
    split.mp ⟨2, whole, run⟩
  exact ⟨site, whole, before, next, operated, isMounted, isOpen, run, driver,
    spliced.contents, part, middle, last, after, first, second,
    same _ whole part middle last after run first second⟩

end MountSpace.Proofs.Volumes
