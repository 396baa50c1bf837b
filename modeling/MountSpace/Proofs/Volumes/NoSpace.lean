import MountSpace.Proofs.Volumes.Mounts

/-!
# `MountSpace.Proofs.Volumes.NoSpace`: requests for which there is no room

A volume refuses a request for want of room in four places, and in three of
them before it has changed anything on the device. The fourth one is the
superblock: whether it can tell the numbers is looked at when the image has
been written.

* `Never`: an operation that does not stop at a limit, whatever it is asked
  for. `Geometry.room` is the one place where a capacity is computed.
* `Storing`: the trees that a request stores, each for the geometry that is
  mounted, or for the one that the device tells while it is formatted.
* `limits_of_request`: a request that is refused for want of room has left
  the device undisturbed, unless its tree fits and the superblock cannot tell
  the numbers; and it only stops for a capacity that is no machine word.
* `format_loses_tree`: on a device that tells too large a number of blocks,
  a request that is refused for want of room loses the tree.
-/

set_option autoImplicit false

namespace MountSpace.Proofs.Volumes

open Effects Storage Trees

/-! ### Operations that do not stop at a limit -/

section

variable {σ τ α β : Type} {trap : Trap}

/-- An operation that does not stop at this limit. -/
def Never (trap : Trap) (action : Action σ α) : Prop :=
  ∀ state, action.run state ≠ .stopped trap

/-- Two operations do not stop if the first one does not, and the second
one does not where the first one has led. -/
theorem bind_ne_stopped {action : Action σ α} {next : α → Action σ β}
    {state : σ} (first : action.run state ≠ .stopped trap)
    (second : ∀ value after, action.run state = .done value after →
      (next value).run after ≠ .stopped trap) :
    (action >>= next).run state ≠ .stopped trap := by
  rw [Action.run_bind]
  cases run : action.run state with
  | done value after => exact second value after run
  | refused fault after =>
    intro stops
    cases stops
  | stopped other =>
    intro stops
    cases stops
    exact first run

theorem onMedium_ne_stopped {δ : Type} {action : Action (Medium σ) α}
    {site : Site δ σ} (runs : action.run site.medium ≠ .stopped trap) :
    (Site.onMedium action).run site ≠ .stopped trap := by
  rw [Site.run_onMedium]
  cases run : action.run site.medium with
  | done value medium =>
    intro stops
    cases stops
  | refused fault medium =>
    intro stops
    cases stops
  | stopped other =>
    intro stops
    cases stops
    exact runs run

theorem Never.bind {action : Action σ α} {next : α → Action σ β}
    (first : Never trap action) (second : ∀ value, Never trap (next value)) :
    Never trap (action >>= next) :=
  fun state => bind_ne_stopped (first state)
    fun value after _ => second value after

theorem never_pure (value : α) : Never trap (pure value : Action σ α) := by
  intro state stops
  cases stops

theorem never_refuse (fault : Fault) :
    Never trap (Action.refuse fault : Action σ α) := by
  intro state stops
  cases stops

theorem never_modify (change : σ → σ) :
    Never trap (Action.modify change) := by
  intro state stops
  cases stops

theorem never_note (event : Event) :
    Never trap (Medium.note event : Action (Medium σ) Unit) :=
  never_modify _

theorem never_ofExcept (answer : Except Fault α) :
    Never trap (Action.ofExcept answer : Action σ α) := by
  cases answer with
  | ok value => exact never_pure value
  | error fault => exact never_refuse fault

theorem Never.onMedium {δ : Type} {action : Action (Medium σ) α}
    (never : Never trap action) :
    Never trap (Site.onMedium action : Action (Site δ σ) α) :=
  fun site => onMedium_ne_stopped (never site.medium)

theorem Never.onRefusal {action : Action σ α} {more : Fault → Action σ Unit}
    (never : Never trap action) (neverMore : ∀ fault, Never trap (more fault)) :
    Never trap (action.onRefusal more) := by
  intro state
  rw [Action.run_onRefusal]
  cases run : action.run state with
  | done value after =>
    intro stops
    cases stops
  | refused fault after =>
    exact (neverMore fault).bind (fun _ => never_refuse fault) after
  | stopped other =>
    intro stops
    cases stops
    exact never state run

theorem never_ask {call : Call σ α}
    (answers : ∀ state, call.run state ≠ .error trap) :
    Never trap (Medium.ask call) := by
  intro medium
  rw [Medium.run_ask]
  cases run : call.run medium.device with
  | ok answer =>
    intro stops
    cases stops
  | error other =>
    intro stops
    cases stops
    exact answers medium.device run

/-- What is made of an answer adds no limit. -/
theorem never_answer {call : Call σ α}
    (answers : ∀ state, call.run state ≠ .error trap) (read : α → β)
    (state : σ) :
    (do
      let answer ← call
      return read answer : Call σ β).run state ≠ .error trap := by
  show Except.bind (call.run state) _ ≠ _
  cases run : call.run state with
  | ok answer =>
    intro stops
    cases stops
  | error other =>
    intro stops
    cases stops
    exact answers state run

theorem never_accept {call : Call σ Bool}
    (answers : ∀ state, call.run state ≠ .error trap) :
    Never trap (accept call) := by
  refine (never_ask answers).bind fun success => ?_
  cases success with
  | true => exact never_pure _
  | false => exact never_refuse _

end

/-- A device that stops, if at all, at limits of its own. Of capacities it
knows nothing. -/
structure OwnLimits (σ : Type) [BlockDevice σ] : Prop where
  read (block offset length : Nat) (state : σ) :
    (BlockDevice.read block offset length).run state
      ≠ .error .capacityOverflow
  write (block offset : Nat) (data : Bytes) (state : σ) :
    (BlockDevice.write block offset data).run state
      ≠ .error .capacityOverflow
  control (request : Control) (state : σ) :
    (BlockDevice.control request).run state ≠ .error .capacityOverflow

section

variable {σ : Type} [BlockDevice σ] (own : OwnLimits σ)

include own

theorem never_control (request : Control) :
    Never .capacityOverflow (Medium.control (σ := σ) request) := by
  refine (never_ask (own.control request)).bind fun told => ?_
  by_cases failed : told < 0
  · rw [if_pos failed]
    exact never_refuse _
  · rw [if_neg failed]
    exact never_pure _

theorem never_geometry :
    Never .capacityOverflow (Medium.geometry (σ := σ)) := by
  have size := never_ask (never_answer (own.control .blockSize)
    fun answer => if 0 < answer then some answer.toNat else none)
  have count := never_ask (never_answer (own.control .blockCount)
    fun answer => if 0 ≤ answer then some answer.toNat else none)
  refine size.bind fun found => ?_
  cases found with
  | none => exact never_refuse _
  | some size =>
    refine count.bind fun found => ?_
    cases found with
    | none => exact never_refuse _
    | some count => exact never_pure _

theorem never_readBlock (block length : Nat) :
    Never .capacityOverflow (Medium.readBlock (σ := σ) block length) := by
  refine (never_ask (own.read block 0 length)).bind fun found => ?_
  cases found with
  | some data => exact never_pure _
  | none => exact never_refuse _

theorem never_readBlocks (blockSize block length : Nat) (before : Bytes) :
    Never .capacityOverflow
      (Medium.readBlocks (σ := σ) blockSize block length before) := by
  fun_induction
    (Medium.readBlocks blockSize block length before :
      Action (Medium σ) Bytes) with
  | case1 block length before more ih =>
    exact (never_readBlock own _ _).bind fun piece => ih piece
  | case2 block length before none => exact never_pure _

theorem never_load (geometry : Geometry) :
    Never .capacityOverflow (Tree.load (σ := σ) geometry) := by
  rw [Tree.load]
  by_cases narrow : geometry.blockSize < Superblock.length
  · rw [if_pos narrow]
    exact never_refuse _
  rw [if_neg narrow]
  refine (never_readBlock own _ _).bind fun start => ?_
  refine (never_ofExcept _).bind fun superblock => ?_
  by_cases admits : geometry.Admits superblock
  · rw [if_pos admits]
    refine (never_readBlocks own _ _ _ _).bind fun image => ?_
    refine (never_ofExcept _).bind fun root => ?_
    cases root with
    | directory entries => exact never_pure _
    | file data => exact never_refuse _
  · rw [if_neg admits]
    exact never_refuse _

theorem never_make (work : Work) :
    Never .capacityOverflow (work.make (σ := σ)) := by
  cases work with
  | erase block =>
    exact never_accept (never_answer (own.control (.erase block))
      fun answer => decide (0 ≤ answer))
  | write block data => exact never_accept (own.write block 0 data)
  | sync => exact never_control own .sync

theorem never_makeAll (works : List Work) :
    Never .capacityOverflow (makeAll (σ := σ) works) := by
  induction works with
  | nil => exact never_pure _
  | cons work works ih =>
    exact (never_make own work).bind fun _ => ih

/-- A store stops for the capacity only if that is no machine word. -/
theorem never_store {geometry : Geometry} (word : geometry.capacity < wordLimit)
    (root : Tree) :
    Never .capacityOverflow (root.store (σ := σ) geometry) := by
  have room : geometry.room
      = (pure geometry.capacity : Action (Medium σ) Nat) := if_pos word
  simp only [Tree.store, room, pure_bind]
  by_cases tooLong : geometry.capacity < root.encode.length
  · rw [if_pos tooLong]
    exact (never_note _).bind fun _ => never_refuse _
  · rw [if_neg tooLong, replaceBlocks_eq]
    refine (never_makeAll own _).bind fun _ => ?_
    refine (never_ofExcept _).bind fun superblock => ?_
    rw [heading_eq]
    exact (never_makeAll own _).bind fun _ => never_note _

theorem never_mount : Never .capacityOverflow (Volume.mount (σ := σ)) := by
  refine Never.bind (Never.onMedium ?_) fun _ =>
    (never_modify _).bind fun _ => (never_note _).onMedium
  refine (never_control own .start).bind fun _ => ?_
  refine (never_geometry own).bind fun geometry => ?_
  exact ((never_load own geometry).onRefusal fun _ => never_note _).bind
    fun _ => never_pure _

theorem never_unmount :
    Never .capacityOverflow (Volume.unmount (σ := σ)) := by
  intro site
  rw [Volume.unmount, Action.run_bind, run_getMounted]
  cases current site.driver with
  | error fault =>
    intro stops
    cases stops
  | ok mounted =>
    have left : Never .capacityOverflow (Site.onMedium (do
        Medium.control .sync
        Medium.control .shutdown) : Action (Site Volume σ) Unit) :=
      Never.onMedium ((never_control own .sync).bind
        fun _ => never_control own .shutdown)
    exact left ⟨⟨none⟩, site.medium⟩

theorem never_perform {α : Type} {plan : Plan α}
    (word : plan.stores = true → plan.next.geometry.capacity < wordLimit) :
    Never .capacityOverflow (Volume.perform (σ := σ) plan) := by
  rw [Volume.perform]
  by_cases stores : plan.stores = true
  · rw [if_pos stores]
    exact (never_store own (word stores) _).onMedium.bind
      fun _ => (never_modify _).bind fun _ => never_pure _
  · rw [if_neg stores]
    exact (never_modify _).bind fun _ => never_pure _

end

/-! ### What is stored -/

/-- The geometry that the device of a medium tells when it has been
started. -/
def ToldOnStart {σ : Type} [BlockDevice σ] (medium : Medium σ)
    (geometry : Geometry) : Prop :=
  ∃ started asked, (Medium.control .start).run medium = .done () started
    ∧ Medium.geometry.run started = .done geometry asked

/-- The trees that a request stores, each with the geometry that it is stored
for. -/
inductive Storing {σ : Type} [BlockDevice σ] (site : Site Volume σ) :
    {α : Type} → Request α → Geometry → Tree → Prop
  | plan {α : Type} {request : Request α} {plan : Plan α}
    (made : planned site.driver request = .ok plan)
    (stores : plan.stores = true) :
    Storing site request plan.next.geometry plan.next.root
  | empty {geometry : Geometry} (told : ToldOnStart site.medium geometry)
    (blocks : 2 ≤ geometry.blockCount)
    (wide : Superblock.length ≤ geometry.blockSize) :
    Storing site .format geometry Tree.empty

section

variable {σ α : Type} [BlockDevice σ]

/-- A format stops for the capacity only if that is no machine word. -/
theorem format_ne_stopped (own : OwnLimits σ) {site : Site Volume σ}
    (words : ∀ geometry, Storing site .format geometry Tree.empty →
      geometry.capacity < wordLimit) :
    Volume.format.run site ≠ .stopped .capacityOverflow := by
  have last (geometry : Geometry) :
      Never .capacityOverflow (do
        Site.modifyDriver fun volume : Volume =>
          ⟨volume.mounted.map fun mounted =>
            { mounted with root := Tree.empty, handles := [], geometry }⟩
        Site.onMedium (Medium.note (.volumeFormatted geometry.blockCount)) :
          Action (Site Volume σ) Unit) :=
    (never_modify _).bind fun _ => (never_note _).onMedium
  refine bind_ne_stopped (onMedium_ne_stopped ?_)
    fun geometry after _ => last geometry after
  refine bind_ne_stopped (never_control own .start _) fun _ started starts => ?_
  refine bind_ne_stopped (never_geometry own started)
    fun geometry asked tells => ?_
  by_cases small : geometry.blockCount < 2
      ∨ geometry.blockSize < Superblock.length
  · rw [if_pos small]
    intro stops
    cases stops
  · rw [if_neg small]
    obtain ⟨blocks, wide⟩ := not_or.mp small
    have storing : Storing site .format geometry Tree.empty :=
      .empty ⟨started, asked, starts, tells⟩ (Nat.not_lt.mp blocks)
        (Nat.not_lt.mp wide)
    exact ((never_store own (words geometry storing) Tree.empty).bind
      fun _ => never_pure _) asked

/-! ### Requests -/

/-- Nor does an unmount make a call that changes the device. -/
theorem undisturbed_of_unmount {site after : Site Volume (Probe σ)}
    (left : (Volume.unmount.run site).after? = some after) :
    Undisturbed site.medium.device after.medium.device := by
  have keeps : Keeps (fun other : Site Volume (Probe σ) =>
      Spared site.medium.device other.medium) Volume.unmount := by
    have asked : Keeps (fun other : Site Volume (Probe σ) =>
        Spared site.medium.device other.medium) Volume.getMounted := by
      intro other spared
      rw [run_getMounted]
      cases current other.driver <;> exact spared
    refine keeps_bind asked fun _ => ?_
    refine keeps_bind (keeps_modify fun _ spared => spared) fun _ => ?_
    exact ensures_medium (keeps_bind (keeps_control_spared id)
      fun _ => keeps_control_spared id)
  exact keeps.of_after? (.refl _) left

/-- A format that is refused for want of room. -/
theorem ensures_format_noSpace (site : Site Volume (Probe σ)) :
    Ensures (fun other => other.medium = site.medium) Volume.format
      (fun _ _ => True)
      (fun fault after => fault = .noSpace →
        Spared site.medium.device after.medium
        ∨ ∃ geometry, Storing site .format geometry Tree.empty
          ∧ InVain site.medium.device geometry Tree.empty after.medium) := by
  have starts : Keeps (Spared site.medium.device)
      (Medium.control .start) := keeps_control_spared id
  have started := starts.running (.refl site.medium.device)
  have told (medium : Medium (Probe σ))
      (starts : (Medium.control .start).run site.medium = .done () medium)
      (spared : Spared site.medium.device medium) :
      Ensures (· = medium) Medium.geometry
        (fun geometry after => ToldOnStart site.medium geometry
          ∧ Spared site.medium.device after)
        (fun _ => Spared site.medium.device) :=
    (keeps_geometry_spared.running spared).imp (fun _ start => start)
      (fun _ _ ⟨tells, spared⟩ => ⟨⟨medium, _, starts, tells⟩, spared⟩)
      (fun _ _ spared => spared)
  refine ensures_bind (@ensures_medium _ _ (· = site.medium) (fun _ _ => True)
    (fun fault medium => fault = .noSpace →
      Spared site.medium.device medium
      ∨ ∃ geometry, Storing site .format geometry Tree.empty
        ∧ InVain site.medium.device geometry Tree.empty medium) _ ?_)
    fun _ _ _ => trivial
  refine ensures_bind (started.refusing fun _ _ spared _ => .inl spared)
    fun _ medium ⟨starts, spared⟩ => ?_
  refine ensures_bind ((told medium starts spared).refusing
    fun _ _ spared _ => .inl spared) (fun geometry => ?_) medium rfl
  rintro asked ⟨told, spared⟩
  by_cases small : geometry.blockCount < 2
      ∨ geometry.blockSize < Superblock.length
  · rw [if_pos small]
    exact fun _ => .inl spared
  · rw [if_neg small]
    obtain ⟨blocks, wide⟩ := not_or.mp small
    have storing : Storing site .format geometry Tree.empty :=
      .empty told (Nat.not_lt.mp blocks) (Nat.not_lt.mp wide)
    refine ensures_bind ((ensures_store_noSpace geometry _).refusing ?_)
      (fun _ => ?_) asked spared
    · exact fun _ _ known want =>
        (known want).imp_right fun written => ⟨geometry, storing, written⟩
    · exact fun _ _ => trivial

/-- On any device, a request that is refused for want of room has made no
call that changes the device; or the tree that it stores does fit, and has
been written before it was found that the superblock cannot tell the numbers.
And no request stops for a capacity, unless a capacity that it goes by is no
machine word. -/
theorem limits_of_request (request : Request α)
    (site : Site Volume (Probe σ)) :
    (∀ after, (Volume.serve request).run site = .refused .noSpace after →
        Undisturbed site.medium.device after.medium.device
        ∨ ∃ geometry root, Storing site request geometry root
          ∧ InVain site.medium.device geometry root after.medium)
      ∧ (OwnLimits (Probe σ) →
        (Volume.serve request).run site = .stopped .capacityOverflow →
        ∃ geometry, wordLimit ≤ geometry.capacity
          ∧ ((∃ mounted, site.driver.mounted = some mounted
              ∧ mounted.geometry = geometry)
            ∨ ∃ root, Storing site request geometry root)) := by
  constructor
  · intro after refused
    by_cases files : AboutFiles request
    · obtain ⟨_, same⟩ | ⟨plan, medium, made, stores, ends, same⟩ :=
        refused_cases files refused
      · rw [same]
        exact .inl (.refl _)
      · have known := (ensures_store_noSpace plan.next.geometry
          plan.next.root).apply (.refl site.medium.device)
        rw [ends] at known
        rw [same]
        exact (known rfl).imp_right fun written =>
          ⟨_, _, .plan made stores, written⟩
    cases request with
    | mount =>
      exact .inl (undisturbed_of_mount (congrArg Ending.after? refused))
    | unmount =>
      exact .inl (undisturbed_of_unmount (congrArg Ending.after? refused))
    | format =>
      have known := ensures_format_noSpace site site rfl
      rw [show Volume.format.run site = _ from refused] at known
      refine (known rfl).imp_right ?_
      rintro ⟨geometry, storing, written⟩
      exact ⟨geometry, _, storing, written⟩
    | _ => exact absurd trivial files
  · intro own stops
    by_cases files : AboutFiles request
    · rcases run_serve_eq_or files site with run | ⟨_, mounted, known, _, full⟩
      · refine Classical.byContradiction fun none => ?_
        rw [run] at stops
        cases made : planned site.driver request with
        | error fault =>
          rw [made] at stops
          cases stops
        | ok plan =>
          rw [made, Action.run_bind, Action.run_ofExcept_ok] at stops
          refine never_perform own (fun stores => ?_) site stops
          refine Nat.not_le.mp fun large => none ?_
          exact ⟨_, large, .inr ⟨_, .plan made stores⟩⟩
      · exact ⟨_, full stops, .inl ⟨mounted, known, rfl⟩⟩
    refine Classical.byContradiction fun none => ?_
    cases request with
    | mount => exact never_mount own site stops
    | unmount => exact never_unmount own site stops
    | format =>
      refine format_ne_stopped own (fun geometry storing => ?_) stops
      refine Nat.not_le.mp fun large => none ?_
      exact ⟨geometry, large, .inr ⟨_, storing⟩⟩
    | _ => exact absurd trivial files

end

/-! ### Disks and probes -/

section

variable {α : Type}

/-- A test that stops is the only way to stop here. -/
theorem ne_error_of_ite {test : Except Trap Bool} {trap : Trap} {yes no : α}
    (answers : test ≠ .error trap) :
    (do if ← test then return yes else return no) ≠ .error trap := by
  cases test with
  | ok holds =>
    intro stops
    cases holds <;> cases stops
  | error other =>
    intro stops
    cases stops
    exact answers rfl

/-- A disk only stops at its last address, or where its blocks are empty. -/
theorem ownLimits_disk : OwnLimits RamDisk := by
  have checks (disk : RamDisk) (block offset length : Nat) :
      disk.holds block offset length ≠ .error .capacityOverflow := by
    simp only [RamDisk.holds]
    intro stops
    repeat' split at stops
    all_goals cases stops
  refine ⟨fun block offset length disk => ?_, fun block offset data disk => ?_,
    fun request disk => ?_⟩
  · exact ne_error_of_ite (checks disk block offset length)
  · exact ne_error_of_ite (checks disk block offset data.length)
  · cases request with
    | start | shutdown | sync | blockSize =>
      intro stops
      cases stops
    | blockCount =>
      show (if disk.blockSize = 0 then Except.error Trap.zeroBlockSize
        else .ok (signedWord (disk.size / disk.blockSize), disk)) ≠ _
      intro stops
      split at stops <;> cases stops
    | erase block => exact ne_error_of_ite (checks disk block 0 _)

variable {σ : Type}

theorem ne_error_of_pass {call : Call σ α} {trap : Trap}
    (answers : ∀ state, call.run state ≠ .error trap) (probe : Probe σ) :
    (Probe.pass call).run probe ≠ .error trap := by
  rw [Probe.run_pass]
  cases run : call.run probe.device with
  | ok answer =>
    intro stops
    cases stops
  | error other =>
    intro stops
    cases stops
    exact answers probe.device run

/-- A probe stops where the device behind it does. -/
theorem ownLimits_probe [BlockDevice σ] (own : OwnLimits σ) :
    OwnLimits (Probe σ) := by
  refine ⟨fun block offset length probe => ?_,
    fun block offset data probe => ?_, fun request probe => ?_⟩
  · show (Probe.read block offset length).run probe ≠ _
    rw [Probe.run_read]
    by_cases failing : block ∈ probe.faults.reads
    · simp only [if_pos failing]
      intro stops
      cases stops
    · simp only [if_neg failing]
      exact ne_error_of_pass (own.read block offset length) _
  · show (Probe.write block offset data).run probe ≠ _
    rw [Probe.run_write]
    by_cases failing : block ∈ probe.faults.writes
    · simp only [if_pos failing]
      intro stops
      cases stops
    · simp only [if_neg failing]
      split
      · exact ne_error_of_pass (own.write block offset data) _
      · intro stops
        cases stops
      · exact ne_error_of_pass (own.write block offset data) _
  · show (Probe.control request).run probe ≠ _
    rw [Probe.run_control]
    cases Keyed.get? probe.faults.answers request.code with
    | some told =>
      intro stops
      cases stops
    | none =>
      cases request with
      | erase block =>
        by_cases failing : block ∈ probe.faults.erases
        · simp only [if_pos failing]
          intro stops
          cases stops
        · simp only [if_neg failing]
          exact ne_error_of_pass (own.control (.erase block)) _
      | start => exact ne_error_of_pass (own.control .start) _
      | shutdown => exact ne_error_of_pass (own.control .shutdown) _
      | sync => exact ne_error_of_pass (own.control .sync) _
      | blockCount => exact ne_error_of_pass (own.control .blockCount) _
      | blockSize => exact ne_error_of_pass (own.control .blockSize) _

end

/-- A disk of three blocks that tells these numbers instead of its own. -/
def telling (blockSize blockCount : Int) : Site Volume (Probe RamDisk) :=
  ⟨.fresh, ⟨⟨⟨54, 18, ∅⟩, { answers := [(Control.blockSize.code, blockSize),
    (Control.blockCount.code, blockCount)] }, []⟩, []⟩⟩

/-- On a single block a format stores nothing. -/
theorem not_storing_of_single {geometry : Geometry} {root : Tree} :
    ¬ Storing (telling 18 1) .format geometry root := by
  intro storing
  cases storing with
  | plan made _ => nomatch made
  | empty told blocks _ =>
    obtain ⟨started, asked, starts, tells⟩ := told
    cases starts
    cases tells
    exact absurd blocks (by decide)

/-- With a single block there is no room, and the disk stays as it is. With
the greatest numbers there are the capacity is no machine word. -/
theorem limits_of_request_sample :
    (∃ after, (Volume.serve .format).run (telling 18 1)
          = .refused .noSpace after
        ∧ Undisturbed (telling 18 1).medium.device after.medium.device
        ∧ after.medium.device.device = (telling 18 1).medium.device.device)
      ∧ (Volume.serve .format).run
          (telling 0x7fff_ffff_ffff_ffff 0x7fff_ffff_ffff_ffff)
        = .stopped .capacityOverflow
      ∧ ∃ geometry root, wordLimit ≤ geometry.capacity
        ∧ Storing (telling 0x7fff_ffff_ffff_ffff 0x7fff_ffff_ffff_ffff)
          .format geometry root := by
  obtain ⟨after, refused⟩ : ∃ after, (Volume.serve .format).run
      (telling 18 1) = .refused .noSpace after := ⟨_, rfl⟩
  have stops : (Volume.serve .format).run
        (telling 0x7fff_ffff_ffff_ffff 0x7fff_ffff_ffff_ffff)
      = .stopped .capacityOverflow := rfl
  have spared :
      Undisturbed (telling 18 1).medium.device after.medium.device := by
    obtain same | ⟨_, _, storing, _⟩ :=
      (limits_of_request .format _).1 after refused
    · exact same
    · exact absurd storing not_storing_of_single
  refine ⟨⟨after, refused, spared, spared.same id lasting_disk⟩, stops, ?_⟩
  obtain ⟨geometry, large, ⟨mounted, known, _⟩ | ⟨root, storing⟩⟩ :=
    (limits_of_request .format _).2 (ownLimits_probe ownLimits_disk) stops
  · cases known
  · exact ⟨geometry, root, large, storing⟩

/-! ### A tree that is lost -/

/-- A disk of three blocks with a directory. From now on it tells more blocks
than a superblock can tell of. -/
def boasting : Option (Site Volume (Probe RamDisk)) := do
  let site ← asked .format ⟨.fresh, ⟨⟨⟨54, 18, ∅⟩, {}, []⟩, []⟩⟩
  let site ← asked .mount site
  let site ← asked (.makeDirectory "kept") site
  return failing { answers := [(Control.blockCount.code, 0x1_0000_0000)] } site

/-- A format that is refused for want of room has erased and written a block,
and the tree that was on the disk is lost. -/
theorem format_loses_tree :
    ∃ site after : Site Volume (Probe RamDisk),
      treeOf site.medium.device.device
        = .ok (.directory [("kept", Tree.empty)])
      ∧ (Volume.serve .format).run site = .refused .noSpace after
      ∧ after.medium.device.calls
        = .write 1 0 5 :: .control (.erase 1) :: .control .blockCount
          :: .control .blockSize :: .control .start
          :: site.medium.device.calls
      ∧ treeOf after.medium.device.device = .error .corrupted := by
  have fails : (boasting.map fun site =>
      match (Volume.serve .format).run site with
      | .refused .noSpace after =>
        some (treeOf site.medium.device.device,
          decide (after.medium.device.calls
            = .write 1 0 5 :: .control (.erase 1) :: .control .blockCount
              :: .control .blockSize :: .control .start
              :: site.medium.device.calls),
          treeOf after.medium.device.device)
      | _ => none)
      = some (some (.ok (.directory [("kept", Tree.empty)]), true,
        .error .corrupted)) := by
    decide +kernel
  obtain ⟨site, _, ends⟩ := Option.map_eq_some_iff.mp fails
  split at ends
  · next after refused =>
    obtain ⟨before, rest⟩ := Prod.mk.inj (Option.some.inj ends)
    obtain ⟨calls, lost⟩ := Prod.mk.inj rest
    exact ⟨site, after, before, refused, of_decide_eq_true calls, lost⟩
  · cases ends

end MountSpace.Proofs.Volumes
