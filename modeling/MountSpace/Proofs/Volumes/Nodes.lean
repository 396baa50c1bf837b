import MountSpace.Proofs.NameSpaces.Volumes
import MountSpace.Proofs.Volumes.Refusals

/-!
# `MountSpace.Proofs.Volumes.Nodes`: every node of a mounted tree

A mounted volume has a tree that fits its device, whoever wrote the medium
and whatever the device has answered since (`Contained`). A medium of
foreign origin is checked when it is mounted, and a tree that has been
edited is measured when it is stored, before anything is written.

The nodes of a tree are told by the names from entry to entry, without a
look-up (`Node`). In a tree that fits a device there is no entry that its
path would miss.

* `keeps_contained`: every request keeps the tree within the device.
* `nodes_of_mounted`: all names in a mounted tree are names of entries, the
  names of a node, with slashes between them, are a path that leads to it,
  and the image of the tree is never too long.
-/

set_option autoImplicit false

namespace MountSpace.Proofs.Volumes

open Effects NameSpaces Paths Storage Trees
open MountSpace.Path (isAbsolute)
open MountSpace.Tree (IsName)

/-! ### Nodes and their paths -/

/-- The trees within a tree, each with the names of the entries that lead
down to it. -/
inductive Node : Tree → List String → Tree → Prop where
  | here (tree : Tree) : Node tree [] tree
  | entry {entries : Keyed String Tree} {name : String} {child tree : Tree}
    {names : List String} :
    (name, child) ∈ entries → Node child names tree →
    Node (.directory entries) (name :: names) tree

section

variable {root tree : Tree} {names : List String}

/-- No entry hides another one. -/
theorem Node.lookup (node : Node root names tree)
    (formed : root.WellFormed) : root.lookup names = .ok tree := by
  induction node with
  | here tree => rfl
  | entry member _ ih =>
    obtain ⟨sorted, all⟩ := wellFormed_directory_iff.mp formed
    rw [Tree.lookup, sorted.get?_eq_some member]
    exact ih (all _ member).2

/-- Names of entries with slashes between them, and behind one slash more,
are the text of the names from the root on. -/
theorem slash_intercalate (some : names ≠ []) :
    "/" ++ "/".intercalate names = ofNames names :=
  String.toList_inj.mp
    ((toList_slash_intercalate some).trans (toList_ofNames some).symm)

/-- They do not begin with a slash themselves. -/
theorem isAbsolute_intercalate
    (fit : ∀ name ∈ names, IsName name) :
    isAbsolute ("/".intercalate names) = false := by
  cases names with
  | nil => decide
  | cons name rest =>
    have text := toList_slash_intercalate (List.cons_ne_nil name rest)
    have isName := fit name List.mem_cons_self
    rw [String.toList_append, written_cons] at text
    have starts : ("/".intercalate (name :: rest)).toList
        = name.toList ++ written rest := (List.cons.inj text).2
    exact isAbsolute_of_toList_eq (isSegment_of_isName isName) starts

/-- A volume puts the slash in front. -/
theorem names_eq_of_relative {text : String}
    (relative : isAbsolute text = false) :
    Volume.names text = Volume.names ("/" ++ text) := by
  have absolute : isAbsolute ("/" ++ text) = true := by
    simp [isAbsolute]
  simp only [Volume.names, relative, if_pos absolute]
  rfl

/-- The names of entries are read back from between the slashes. -/
theorem names_intercalate (storable : ∀ name ∈ names, Storable name) :
    Volume.names ("/".intercalate names) = .ok names := by
  have fit : ∀ name ∈ names, IsName name :=
    fun name member => (storable name member).1
  by_cases none : names = []
  · rw [none]
    decide
  have short : ¬ (names.any fun name =>
      decide (maxNameLength < name.utf8ByteSize)) = true := by
    intro long
    obtain ⟨name, member, tooLong⟩ := List.any_eq_true.mp long
    exact absurd (of_decide_eq_true tooLong)
      (Nat.not_lt.mpr (storable name member).2)
  rw [names_eq_of_relative (isAbsolute_intercalate fit),
    slash_intercalate none, names_of_isNormal (isNormal_ofNames fit),
    segments_ofNames fit, if_neg short]

end

/-! ### Trees that fit -/

/-- What is mounted, if anything is, fits the device. -/
def Contained (volume : Volume) : Prop :=
  ∀ mounted, volume.mounted = some mounted →
    Fits mounted.geometry mounted.root

theorem contained_none : Contained ⟨none⟩ :=
  fun _ known => nomatch known

theorem contained_some {mounted : Mounted}
    (fits : Fits mounted.geometry mounted.root) :
    Contained ⟨some mounted⟩ := by
  rintro _ ⟨⟩
  exact fits

variable {σ α : Type} [BlockDevice σ] {volume : Volume}

/-- A tree that has been stored fits, and one that has not is the old
one. -/
theorem ensures_contained {plan : Plan α} {request : Request α}
    (contained : Contained volume)
    (made : planned volume request = .ok plan) :
    Ensures (fun site : Site Volume σ => site.driver = volume)
      (Volume.perform plan) (fun _ site => Contained site.driver)
      (fun _ site => site.driver = volume) := by
  obtain ⟨mounted, known, follows⟩ := follows_planned made
  have before := contained mounted known
  have follows := follows before.isRoot
  intro site same
  rw [run_perform]
  split
  · next stores =>
    have room := ensures_store_room plan.next.geometry plan.next.root
      site.medium trivial
    cases ending : (plan.next.root.store plan.next.geometry).run
        site.medium with
    | done _ medium =>
      rw [ending] at room
      have readable := follows.geometry ▸ before.readable
      exact contained_some ⟨follows.isRoot, readable, room.1⟩
    | refused fault medium => exact same
    | stopped trap => trivial
  · next none =>
    have kept := follows.kept (eq_false_of_ne_true none)
    refine contained_some ⟨follows.isRoot, ?_, ?_⟩
    · rw [follows.geometry]
      exact before.readable
    · rw [follows.geometry, kept]
      exact before.room

/-- Every request leaves a tree that fits, done or refused. -/
theorem keeps_contained (request : Request α) :
    Keeps (fun site : Site Volume σ => Contained site.driver)
      (Volume.serve request) := by
  intro site contained
  -- What is refused has left the volume as it was, other than an unmount.
  have refused : ∀ (_ : Fault) (left : Site Volume σ),
      left.driver = site.driver → Contained left.driver := by
    intro _ left same
    rw [same]
    exact contained
  by_cases files : AboutFiles request
  · exact (ensures_planned_of files fun plan made =>
      ensures_contained contained made).imp (fun _ same => same)
      (fun _ _ known => known) refused site rfl
  cases request with
  | mount =>
    refine ((ensures_mounted.apply trivial).and
      (spares_mount.apply rfl)).imp ?_ (fun fault left known =>
        refused fault left known.2)
    rintro _ left ⟨⟨root, geometry, fits, driver⟩, _⟩
    rw [driver]
    exact contained_some fits
  | format =>
    refine ((ensures_formatted.apply rfl).and
      (spares_format.apply rfl)).imp ?_ (fun fault left known =>
        refused fault left known.2)
    rintro _ left ⟨⟨geometry, fits, driver⟩, _⟩
    rw [driver]
    intro mounted known
    obtain ⟨old, _, rfl⟩ := Option.map_eq_some_iff.mp known
    exact fits
  | unmount =>
    have gone : ∀ left : Site Volume σ, left.driver = ⟨none⟩ →
        Contained left.driver := by
      intro left driver
      rw [driver]
      exact contained_none
    exact (ensures_unmounted.apply trivial).imp (fun _ => gone)
      (fun _ => gone)
  | _ => exact absurd trivial files

/-! ### Any order of requests -/

/-- The sites that any order of requests leads to, each of them done or
refused, with the medium as it likes in between. -/
inductive Operated : Site Volume σ → Prop where
  | fresh (medium : Medium σ) : Operated ⟨.fresh, medium⟩
  | between {site : Site Volume σ} (medium : Medium σ) :
    Operated site → Operated { site with medium }
  | request {site after : Site Volume σ} {α : Type} (request : Request α) :
    Operated site →
    ((Volume.serve request).run site).after? = some after →
    Operated after

theorem Operated.contained {site : Site Volume σ} (operated : Operated site) :
    Contained site.driver := by
  induction operated with
  | fresh medium => exact contained_none
  | between medium _ ih => exact ih
  | request request _ left ih =>
    exact (keeps_contained request).of_after? ih left

/-- What requests of all kinds leave, one after the other, unless one of them
stops. -/
def askedAll (requests : List ((α : Type) × Request α))
    (site : Site Volume σ) : Option (Site Volume σ) :=
  requests.foldlM (fun site request => asked request.2 site) site

theorem Operated.askedAll {site after : Site Volume σ}
    (operated : Operated site) {requests : List ((α : Type) × Request α)}
    (left : askedAll requests site = some after) : Operated after := by
  induction requests generalizing site with
  | nil =>
    cases left
    exact operated
  | cons request requests ih =>
    rw [Volumes.askedAll, List.foldlM_cons] at left
    obtain ⟨between, first, left⟩ := Option.bind_eq_some_iff.mp left
    exact ih (operated.request request.2 first) left

/-- Whatever was on the medium, whatever the device does and whatever has
been asked of the volume, its root is a directory while it is mounted, and
what would be written for the tree has room in the blocks after the first
one. Each node of the tree has names that are not empty, short enough,
without a slash and none of the two dots. With slashes between them they
are a path with exactly these names, and what it names is told to be the
node. -/
theorem nodes_of_mounted {site : Site Volume σ} (operated : Operated site)
    {mounted : Mounted} (known : site.driver.mounted = some mounted) :
    mounted.root.isDirectory = true
      ∧ mounted.root.encode.length
        ≤ (mounted.geometry.blockCount - 1) * mounted.geometry.blockSize
      ∧ ∀ names tree, Node mounted.root names tree →
        (∀ name ∈ names, name ≠ "" ∧ name.utf8ByteSize ≤ 255
          ∧ '/' ∉ name.toList ∧ name ≠ "." ∧ name ≠ "..")
        ∧ Volume.names ("/".intercalate names) = .ok names
        ∧ (Volume.serve (.stat ("/".intercalate names))).run site
          = .done tree.stat site := by
  have fits := operated.contained mounted known
  refine ⟨fits.isRoot.directory, fits.room, fun names tree node => ?_⟩
  have found := node.lookup fits.isRoot.formed
  have storable := storable_of_lookup fits.isRoot.formed found
  have named := names_intercalate storable
  refine ⟨fun name member => ?_, named, ?_⟩
  · obtain ⟨⟨some, dot, dots, slash⟩, short⟩ := storable name member
    exact ⟨some, short, slash, dot, dots⟩
  · obtain ⟨⟨_⟩, medium⟩ := site
    cases known
    have leads : treeAt mounted.root ("/".intercalate names) = .ok tree := by
      rw [treeAt, named]
      exact found
    rw [run_stat, leads]

/-- A disk that something else has written, the names not in order, and a
directory that is made there. -/
def foreign : Option (Site Volume RamDisk) :=
  let disk := stored ⟨96, 32, ∅⟩
    (.directory [("b", .file [7]), ("a", Tree.empty)])
  (asked .mount ⟨.fresh, ⟨disk, []⟩⟩).bind (asked (.makeDirectory "a/c"))

/-- The new directory is found, in a tree that the two blocks hold. -/
theorem nodes_of_mounted_sample :
    ∃ (site : Site Volume RamDisk) (mounted : Mounted),
      Operated site
      ∧ site.driver.mounted = some mounted
      ∧ mounted.root = .directory
        [("a", .directory [("c", Tree.empty)]), ("b", .file [7])]
      ∧ mounted.root.encode.length ≤ (3 - 1) * 32
      ∧ (Volume.serve (.stat "a/c")).run site
        = .done Tree.empty.stat site := by
  have shape : (foreign.bind fun site =>
      site.driver.mounted.map fun mounted => (mounted.root, mounted.geometry))
      = some (.directory [("a", .directory [("c", Tree.empty)]),
        ("b", .file [7])], ⟨32, 3⟩) := by
    decide +kernel
  obtain ⟨site, made, shape⟩ := Option.bind_eq_some_iff.mp shape
  obtain ⟨mounted, known, holds⟩ := Option.map_eq_some_iff.mp shape
  obtain ⟨root, geometry⟩ := Prod.mk.inj holds
  rw [foreign, Option.bind_eq_some_iff] at made
  obtain ⟨_, mounts, makes⟩ := made
  have operated : Operated site :=
    ((Operated.fresh _).request .mount mounts).request
      (.makeDirectory "a/c") makes
  obtain ⟨_, room, nodes⟩ := nodes_of_mounted operated known
  have node : Node mounted.root ["a", "c"] Tree.empty := by
    rw [root]
    exact .entry List.mem_cons_self (.entry List.mem_cons_self (.here _))
  have path : "/".intercalate ["a", "c"] = "a/c" := by decide
  obtain ⟨_, _, told⟩ := nodes _ _ node
  rw [path] at told
  rw [geometry] at room
  exact ⟨site, mounted, operated, known, root, room, told⟩

end MountSpace.Proofs.Volumes
