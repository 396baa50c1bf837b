import MountSpace.Proofs.Image.Reading
import MountSpace.Proofs.Storage.Superblock
import MountSpace.Proofs.Storage.Works
import MountSpace.Proofs.Trees.Shape

/-!
# `MountSpace.Proofs.Storage.Trees`: trees on a disk

`treeOf` is the tree that a volume finds on a disk, and `stored` the disk
after a tree has been written to it (`commit`).

* `treeOf_stored`: the tree that was written is found, whatever was on the
  disk before.
* `run_load`, `run_store`: loading and storing are done by a disk that
  does not fail, and come to these values. A tree that does not fit is
  refused before anything is written.
* `ensures_store`, `ensures_load`: behind a layer that can fail, a store
  that is done has done the same to the disk, and whatever is loaded is a
  well-formed directory.
-/

set_option autoImplicit false

namespace MountSpace.Proofs.Storage

open Effects Image Trees

/-! ### Trees and disks -/

/-- The superblock for an image of this length. -/
def superblockOf (geometry : Geometry) (imageLength : Nat) : Superblock :=
  ⟨.ofNat geometry.blockSize, .ofNat geometry.blockCount,
    .ofNat imageLength⟩

/-- The tree on a disk. -/
def treeOf (disk : RamDisk) : Except Fault Tree :=
  if disk.blockSize < Superblock.length then .error .corrupted
  else
    match Superblock.decode (start disk 0 Superblock.length) with
    | .error fault => .error fault
    | .ok superblock =>
      if (geometryOf disk).Admits superblock then
        match Tree.decode (contents disk disk.blockSize 1
            superblock.imageLength.toNat) with
        | .error fault => .error fault
        | .ok (.directory entries) => .ok (.directory entries)
        | .ok (.file _) => .error .corrupted
      else .error .corrupted

/-- The disk with a tree written to it. -/
def stored (disk : RamDisk) (root : Tree) : RamDisk :=
  replace (replaceAll disk disk.blockSize 1 root.encode) 0
    (superblockOf (geometryOf disk) root.encode.length).encode

@[simp]
theorem geometryOf_stored (disk : RamDisk) (root : Tree) :
    geometryOf (stored disk root) = geometryOf disk :=
  geometryOf_replaceAll disk disk.blockSize 1 root.encode

/-- The numbers that are written are those that are found. -/
theorem admits_superblockOf {geometry : Geometry} {imageLength : Nat}
    (readable : Readable geometry)
    (fits : imageLength ≤ geometry.capacity)
    (short : imageLength < fieldLimit) :
    geometry.Admits (superblockOf geometry imageLength)
      ∧ (superblockOf geometry imageLength).imageLength.toNat
        = imageLength := by
  have length := toNat_ofNat_of_lt short
  refine ⟨⟨toNat_ofNat_of_lt readable.size, toNat_ofNat_of_lt readable.count,
    ?_⟩, length⟩
  show (UInt32.ofNat imageLength).toNat ≤ geometry.capacity
  rw [length]
  exact fits

/-- The numbers that are written to the first block fit their fields. -/
structure Fields (geometry : Geometry) (imageLength : Nat) : Prop where
  size : geometry.blockSize < fieldLimit
  count : geometry.blockCount < fieldLimit
  image : imageLength < fieldLimit

theorem superblock_eq {geometry : Geometry} {imageLength : Nat}
    (fields : Fields geometry imageLength) :
    geometry.superblock imageLength
      = .ok (superblockOf geometry imageLength) :=
  if_pos ⟨fields.size, fields.count, fields.image⟩

theorem fields_of_superblock {geometry : Geometry} {imageLength : Nat}
    {superblock : Superblock}
    (written : geometry.superblock imageLength = .ok superblock) :
    Fields geometry imageLength := by
  rw [Geometry.superblock] at written
  split at written
  · next fits => exact ⟨fits.1, fits.2.1, fits.2.2⟩
  · nomatch written

/-- Where all images are short enough, all numbers fit their fields. -/
theorem fields_of_suitable {geometry : Geometry} {imageLength : Nat}
    (suitable : Suitable geometry)
    (fits : imageLength ≤ geometry.capacity) :
    Fields geometry imageLength :=
  ⟨suitable.readable.size, suitable.readable.count,
    Nat.lt_of_le_of_lt fits suitable.small⟩

/-- The capacity of a device that a superblock can tell of is a word. -/
theorem room_eq_pure {τ : Type} {geometry : Geometry}
    (readable : Readable geometry) :
    geometry.room = (pure geometry.capacity : Action τ Nat) := by
  have all := readable.mul_eq
  have few := readable.mul_lt
  rw [Geometry.room, if_pos (by omega)]

/-- The calls that put a tree on a device with room for it. -/
def commit {σ : Type} [BlockDevice σ] (geometry : Geometry) (root : Tree) :
    Action (Medium σ) Unit := do
  Medium.replaceBlocks geometry.blockSize 1 root.encode
  Medium.replaceBlock 0 (superblockOf geometry root.encode.length).encode
  Medium.control .sync
  Medium.note (.imageCommitted root.encode.length)

/-- A tree is written for which there is room, and whose numbers fit their
fields. -/
theorem store_eq_commit {σ : Type} [BlockDevice σ] {geometry : Geometry}
    {root : Tree} (readable : Readable geometry)
    (fits : root.encode.length ≤ geometry.capacity)
    (short : root.encode.length < fieldLimit) :
    (root.store geometry : Action (Medium σ) Unit)
      = commit geometry root := by
  have room : geometry.room
      = (pure geometry.capacity : Action (Medium σ) Nat) :=
    room_eq_pure readable
  -- The numbers fit the superblock, so the image is not written in vain.
  have written : (Action.ofExcept (geometry.superblock root.encode.length) :
        Action (Medium σ) Superblock)
      = pure (superblockOf geometry root.encode.length) := by
    rw [superblock_eq ⟨readable.size, readable.count, short⟩]
    rfl
  simp only [Tree.store, room, pure_bind, if_neg (Nat.not_lt.mpr fits),
    commit, written]

/-- On a device that a volume can be on, only the length of the image
decides whether it is written. -/
theorem store_eq {σ : Type} [BlockDevice σ] {geometry : Geometry}
    (suitable : Suitable geometry) (root : Tree) :
    (root.store geometry : Action (Medium σ) Unit) =
      if geometry.capacity < root.encode.length then do
        Medium.note (.imageTooLarge root.encode.length geometry.capacity)
        Action.refuse .noSpace
      else commit geometry root := by
  by_cases tooLong : geometry.capacity < root.encode.length
  · have room : geometry.room
        = (pure geometry.capacity : Action (Medium σ) Nat) :=
      room_eq_pure suitable.readable
    simp only [Tree.store, room, pure_bind, if_pos tooLong]
  · have fits := Nat.not_lt.mp tooLong
    have fields := fields_of_suitable suitable fits
    rw [if_neg tooLong, store_eq_commit suitable.readable fits fields.image]

/-- There is room for an empty directory. -/
theorem length_encode_empty_le {geometry : Geometry}
    (suitable : Suitable geometry) :
    Tree.empty.encode.length ≤ geometry.capacity := by
  have short : Tree.empty.encode.length ≤ Superblock.length := by decide
  have header := suitable.header
  have size := suitable.blockSize_le_capacity
  omega

/-- What was written for a well-formed directory is found, whatever was
on the disk before. -/
theorem treeOf_stored {disk : RamDisk} {root : Tree}
    (readable : Readable (geometryOf disk)) (isRoot : IsRoot root)
    (fits : root.encode.length ≤ (geometryOf disk).capacity)
    (short : root.encode.length < fieldLimit) :
    treeOf (stored disk root) = .ok root := by
  have geometry := geometryOf_stored disk root
  have size : (stored disk root).blockSize = disk.blockSize :=
    congrArg Geometry.blockSize geometry
  have wide : ¬ disk.blockSize < Superblock.length :=
    Nat.not_lt.mpr readable.header
  obtain ⟨admits, length⟩ := admits_superblockOf readable fits short
  -- The superblock is written last, as all that its block holds.
  have first : start (stored disk root) 0 Superblock.length
      = (superblockOf (geometryOf disk) root.encode.length).encode := by
    have kept : (stored disk root).kept 0
        = (superblockOf (geometryOf disk) root.encode.length).encode := by
      rw [stored, kept_replace, if_pos rfl]
    rw [← length_encode (superblockOf (geometryOf disk)
      root.encode.length), ← kept, start_eq_kept]
  -- It leaves the blocks of the image as they were written.
  have image : contents (stored disk root) disk.blockSize 1
      root.encode.length = root.encode := by
    have later (block : Nat) (behind : 1 ≤ block) :
        (stored disk root).kept block
          = (replaceAll disk disk.blockSize 1 root.encode).kept block := by
      rw [stored, kept_replace, if_neg (by omega)]
    rw [contents_congr later]
    exact contents_replaceAll readable.blockSize_pos disk 1 root.encode
  have back : Tree.decode root.encode = .ok root := by
    exact decode_eq_ok_iff.mpr ((isImage_encode isRoot.formed short).mono
      fun _ => Ascending.nodup)
  have found := decode_append
    (superblockOf (geometryOf disk) root.encode.length) []
  rw [List.append_nil] at found
  simp only [treeOf, size, if_neg wide, first, found, geometry, length,
    image, back, if_pos admits]
  cases root with
  | file data => nomatch isRoot.directory
  | directory entries => rfl

/-! ### A disk that does not fail -/

section

variable {disk : RamDisk} (events : List Event)

/-- Loading finds the tree on the disk, and leaves the disk alone. -/
theorem run_load (legible : Legible (geometryOf disk)) :
    (Tree.load (geometryOf disk)).run ⟨disk, events⟩ =
      match treeOf disk with
      | .ok root => .done root ⟨disk, events⟩
      | .error fault => .refused fault ⟨disk, events⟩ := by
  have wide : ¬ disk.blockSize < Superblock.length :=
    Nat.not_lt.mpr legible.header
  have first := run_readBlock events legible
    legible.one legible.header
  have size : (geometryOf disk).blockSize = disk.blockSize := rfl
  simp only [Tree.load, treeOf, size, if_neg wide, Action.run_bind, first]
  cases Superblock.decode (start disk 0 Superblock.length) with
  | error fault => rfl
  | ok superblock =>
    simp only [Action.run_ofExcept_ok]
    by_cases admits : (geometryOf disk).Admits superblock
    · have inside : 1 * disk.blockSize + superblock.imageLength.toNat
          ≤ (geometryOf disk).blockCount * disk.blockSize := by
        have all : (geometryOf disk).blockCount * disk.blockSize
            = (geometryOf disk).capacity + disk.blockSize :=
          legible.mul_eq
        have short := admits.2.2
        omega
      have image := run_readBlocks events legible inside []
      rw [List.reverse_nil, List.nil_append] at image
      simp only [if_pos admits, Action.run_bind, image]
      cases Tree.decode (contents disk disk.blockSize 1
          superblock.imageLength.toNat) with
      | error fault => rfl
      | ok root => cases root <;> rfl
    · simp only [if_neg admits]
      rfl

theorem run_commit {root : Tree} (suitable : Suitable (geometryOf disk))
    (fits : root.encode.length ≤ (geometryOf disk).capacity) :
    (commit (geometryOf disk) root).run ⟨disk, events⟩
      = .done () ⟨stored disk root,
          .imageCommitted root.encode.length :: events⟩ := by
  -- The image goes into the blocks after the first one …
  have inside : 1 * disk.blockSize + root.encode.length
      ≤ (geometryOf disk).blockCount * disk.blockSize := by
    have all : (geometryOf disk).blockCount * disk.blockSize
        = (geometryOf disk).capacity + disk.blockSize := suitable.mul_eq
    omega
  have image := run_replaceBlocks events suitable.readable inside
  -- … and the superblock into the first one of what that leaves.
  have same := geometryOf_replaceAll disk disk.blockSize 1 root.encode
  have suitableStill : Suitable (geometryOf
      (replaceAll disk disk.blockSize 1 root.encode)) := by
    rw [same]
    exact suitable
  have short : (superblockOf (geometryOf disk)
        root.encode.length).encode.length
      ≤ (replaceAll disk disk.blockSize 1 root.encode).blockSize := by
    rw [length_encode]
    exact suitableStill.header
  have some : 0 < (geometryOf
      (replaceAll disk disk.blockSize 1 root.encode)).blockCount :=
    Nat.lt_of_lt_of_le (by decide) suitableStill.two
  have first := run_replaceBlock events suitableStill.readable some short
  have synced : (Medium.control .sync).run ⟨stored disk root, events⟩
      = .done () ⟨stored disk root, events⟩ :=
    run_idle events (Or.inr (Or.inr rfl))
  have size : (geometryOf disk).blockSize = disk.blockSize := rfl
  rw [commit, size, Action.run_bind, image]
  simp only [Action.run_bind, first]
  show (Medium.control .sync >>= fun _ => Medium.note _).run
    ⟨stored disk root, events⟩ = _
  rw [Action.run_bind, synced]
  rfl

/-- Storing puts the tree on the disk, or leaves the disk alone. -/
theorem run_store (suitable : Suitable (geometryOf disk)) (root : Tree) :
    (root.store (geometryOf disk)).run ⟨disk, events⟩ =
      if (geometryOf disk).capacity < root.encode.length then
        .refused .noSpace ⟨disk, .imageTooLarge root.encode.length
          (geometryOf disk).capacity :: events⟩
      else
        .done () ⟨stored disk root,
          .imageCommitted root.encode.length :: events⟩ := by
  rw [store_eq suitable]
  by_cases tooLong : (geometryOf disk).capacity < root.encode.length
  · rw [if_pos tooLong, if_pos tooLong]
    rfl
  · rw [if_neg tooLong, if_neg tooLong]
    exact run_commit events suitable (Nat.not_lt.mp tooLong)

end

/-! ### A layer that can fail -/

section

variable {σ : Type} [BlockDevice σ] {layer : Layer σ}

/-- A commit that is done has put the tree on the disk behind the layer,
and only then is this noted. One that is refused may have left anything
in the blocks. -/
theorem ensures_commit (disk : RamDisk) (events : List Event)
    (root : Tree) :
    Ensures (layer.Shows disk events) (commit (geometryOf disk) root)
      (fun _ => layer.Shows (stored disk root)
        (.imageCommitted root.encode.length :: events))
      (fun _ => layer.Has (geometryOf disk)) := by
  refine ensures_bind (ensures_replaceBlocks disk _ 1 _) ?_
  intro _
  have same := geometryOf_replaceAll disk disk.blockSize 1 root.encode
  -- From here on the blocks hold the image, and only the superblock is
  -- still the old one.
  have first : Ensures
      (layer.Shows (replaceAll disk disk.blockSize 1 root.encode) events)
      (Medium.replaceBlock 0
        (superblockOf (geometryOf disk) root.encode.length).encode)
      (fun _ => layer.Shows (stored disk root) events)
      (fun _ => layer.Has (geometryOf
        (replaceAll disk disk.blockSize 1 root.encode))) :=
    ensures_replaceBlock 0 _
  rw [same] at first
  refine ensures_bind first ?_
  intro _
  have synced : Ensures (layer.Shows (stored disk root) events)
      (Medium.control .sync)
      (fun _ => layer.Shows (stored disk root) events)
      (fun _ => layer.Has (geometryOf (stored disk root))) :=
    ensures_control (Or.inr (Or.inr rfl))
  rw [geometryOf_stored] at synced
  refine ensures_bind synced ?_
  intro _ medium shows
  exact ⟨shows.honest, shows.disk, congrArg (List.cons _) shows.events⟩

/-- A store that is done has found room for the tree and committed it. -/
theorem ensures_store {disk : RamDisk} {events : List Event}
    (suitable : Suitable (geometryOf disk)) (root : Tree) :
    Ensures (layer.Shows disk events) (root.store (geometryOf disk))
      (fun _ medium => root.encode.length ≤ (geometryOf disk).capacity
        ∧ layer.Shows (stored disk root)
          (.imageCommitted root.encode.length :: events) medium)
      (fun _ => layer.Has (geometryOf disk)) := by
  rw [store_eq suitable]
  by_cases tooLong : (geometryOf disk).capacity < root.encode.length
  · rw [if_pos tooLong]
    intro medium shows
    have has := has_of_shows shows
    exact ⟨has.1, has.2⟩
  · rw [if_neg tooLong]
    have fits := Nat.not_lt.mp tooLong
    exact (ensures_commit disk events root).imp (fun _ start => start)
      (fun _ _ shows => ⟨fits, shows⟩) (fun _ _ has => has)

/-- Only a well-formed directory is found on a disk. -/
theorem wellFormed_of_decode {image : Bytes} {root : Tree}
    (found : Tree.decode image = .ok root) : root.WellFormed :=
  (decode_eq_ok_iff.mp found).wellFormed

/-- Where a superblock can be, and an image that is not empty, a volume can
be. -/
theorem readable_of_admits {geometry : Geometry} {superblock : Superblock}
    (header : Superblock.length ≤ geometry.blockSize)
    (admits : geometry.Admits superblock)
    (some : 0 < superblock.imageLength.toNat) : Readable geometry := by
  obtain ⟨size, count, image⟩ := admits
  refine ⟨header, ?_, size ▸ superblock.blockSize.toNat_lt,
    count ▸ superblock.blockCount.toNat_lt⟩
  have capacity : 0 < (geometry.blockCount - 1) * geometry.blockSize :=
    Nat.lt_of_lt_of_le some image
  have behind := Nat.pos_of_mul_pos_right capacity
  omega

/-- A tree that a device of this geometry has room for. -/
structure Fits (geometry : Geometry) (root : Tree) : Prop where
  isRoot : IsRoot root
  readable : Readable geometry
  room : root.encode.length ≤ geometry.capacity

/-- The capacity of a device that a superblock can tell of is a word. -/
theorem Fits.word {geometry : Geometry} {root : Tree}
    (fits : Fits geometry root) : geometry.capacity < wordLimit := by
  have all := fits.readable.mul_eq
  have few := fits.readable.mul_lt
  omega

theorem ensures_readBlock_length (block length : Nat) :
    Ensures (fun _ : Medium σ => True) (Medium.readBlock block length)
      (fun piece _ => piece.length = length) (fun _ _ => True) := by
  refine ensures_bind (keeps_true _) fun found => ?_
  cases found with
  | some data => exact fun _ _ => data.length_toList
  | none => exact fun _ _ => trivial

/-- No more is read than was asked for. -/
theorem ensures_readBlocks_length (blockSize block length : Nat)
    (before : Bytes) :
    Ensures (fun _ : Medium σ => True)
      (Medium.readBlocks blockSize block length before)
      (fun image _ => image.length ≤ before.length + length)
      (fun _ _ => True) := by
  fun_induction
    (Medium.readBlocks blockSize block length before :
      Action (Medium σ) Bytes) with
  | case1 block length before more ih =>
    refine ensures_bind (ensures_readBlock_length _ _) fun piece => ?_
    intro medium exact
    refine (ih piece).imp (fun _ start => start) ?_ (fun _ _ _ => trivial)
      medium trivial
    intro image _ short
    rw [List.length_append, List.length_reverse] at short
    omega
  | case2 block length before none =>
    intro medium _
    show before.reverse.length ≤ _
    rw [List.length_reverse]
    omega

/-- A store that is done has found room for the tree, and numbers that fit
their fields, whatever the device does. -/
theorem ensures_store_room (geometry : Geometry) (root : Tree) :
    Ensures (fun _ : Medium σ => True) (root.store geometry)
      (fun _ _ => root.encode.length ≤ geometry.capacity
        ∧ Fields geometry root.encode.length)
      (fun _ _ => True) := by
  have asked : Ensures (fun _ : Medium σ => True) geometry.room
      (fun capacity _ => capacity = geometry.capacity) (fun _ _ => True) := by
    intro medium _
    rw [Geometry.room]
    split
    · rfl
    · trivial
  refine ensures_bind asked fun capacity => ?_
  rintro medium rfl
  by_cases tooLong : geometry.capacity < root.encode.length
  · -- Of a tree that is too long a note is made, and nothing else.
    rw [if_pos tooLong]
    trivial
  · rw [if_neg tooLong]
    have room := Nat.not_lt.mp tooLong
    refine ensures_bind (keeps_true _) (fun _ => ?_) medium trivial
    refine ensures_bind (ensures_answer _ _) fun superblock => ?_
    rintro medium ⟨written, _⟩
    exact meets_of_forall _
      (fun _ _ => ⟨room, fields_of_superblock written⟩) (fun _ _ => trivial)

/-- Whatever the reads find, a tree that is loaded fits the device that it
was read from. What the reads keep is kept as well. -/
theorem ensures_load {inv : Medium σ → Prop}
    (reads : ∀ block length,
      Keeps inv (Medium.ask (BlockDevice.read block 0 length)))
    (geometry : Geometry) :
    Ensures inv (Tree.load geometry)
      (fun root medium => Fits geometry root ∧ inv medium)
      (fun _ => inv) := by
  rw [Tree.load]
  by_cases narrow : geometry.blockSize < Superblock.length
  · rw [if_pos narrow]
    intro medium start
    exact start
  · rw [if_neg narrow]
    refine ensures_bind (keeps_readBlock reads _ _) ?_
    intro first
    refine ensures_bind (keeps_ofExcept _) ?_
    intro superblock
    by_cases admits : geometry.Admits superblock
    · rw [if_pos admits]
      have readsImage := (ensures_readBlocks_length geometry.blockSize 1
        superblock.imageLength.toNat []).and (keeps_readBlocks reads
        geometry.blockSize 1 superblock.imageLength.toNat [])
      refine ensures_bind (readsImage.imp (fun _ start => ⟨trivial, start⟩)
        (fun _ _ known => known) (fun _ _ known => known.2)) ?_
      intro image medium ⟨short, start⟩
      -- Even bytes that nobody wrote are checked before they become a tree.
      cases found : Tree.decode image with
      | error fault => exact start
      | ok root =>
        have isImage := decode_eq_ok_iff.mp found
        cases root with
        | file data => exact start
        | directory entries =>
          rw [List.length_nil, Nat.zero_add] at short
          have header := Nat.not_lt.mp narrow
          have some : 0 < image.length := by
            rw [← isImage.length_encode]
            exact length_encode_pos _
          have readable := readable_of_admits header admits
            (Nat.lt_of_lt_of_le some short)
          refine ⟨⟨⟨isImage.wellFormed, rfl⟩, readable, ?_⟩, start⟩
          rw [isImage.length_encode]
          exact Nat.le_trans short admits.2.2
    · rw [if_neg admits]
      intro medium start
      exact start

end

end MountSpace.Proofs.Storage
