/-!
# `MountSpace.Keyed`: values under keys, in the order of the keys

A finite map kept as a list of pairs. `Keyed.insert` puts a new key in
front of the first greater one, so a map that is built from the empty
one lists its keys in increasing order, each once (`Keyed.Sorted`).

* `get?_insert`: a look-up finds what was put in last.
* `Sorted.insert`, `Sorted.erase`: both operations keep the order.
* `Sorted.eq_of_perm`: two maps in order with the same entries are the
  same.
-/

set_option autoImplicit false

namespace MountSpace

/-- Values under keys. -/
abbrev Keyed (κ α : Type) : Type := List (κ × α)

namespace Keyed

variable {κ α : Type} [DecidableEq κ]

/-- The value under a key. -/
def get? : Keyed κ α → κ → Option α
  | [], _ => none
  | (other, value) :: rest, key =>
    if other = key then some value else get? rest key

/-- Whether there is a value under a key. -/
def contains (entries : Keyed κ α) (key : κ) : Bool :=
  (get? entries key).isSome

/-- Puts a value under a key; what was there is replaced. -/
def insert [LT κ] [DecidableLT κ] :
    Keyed κ α → κ → α → Keyed κ α
  | [], key, value => [(key, value)]
  | (other, old) :: rest, key, value =>
    if other = key then (key, value) :: rest
    else if key < other then (key, value) :: (other, old) :: rest
    else (other, old) :: insert rest key value

/-- Takes a key out, with what is under it. -/
def erase : Keyed κ α → κ → Keyed κ α
  | [], _ => []
  | (other, value) :: rest, key =>
    if other = key then rest else (other, value) :: erase rest key

/-- The keys, in the order of the list. -/
def keys (entries : Keyed κ α) : List κ :=
  entries.map Prod.fst

/-- The keys increase, so none occurs twice. -/
def Sorted [LT κ] (entries : Keyed κ α) : Prop :=
  (keys entries).Pairwise (· < ·)

/-! ### Look-ups -/

@[simp]
theorem get?_nil (key : κ) : get? ([] : Keyed κ α) key = none := rfl

theorem get?_insert [LT κ] [DecidableLT κ] (entries : Keyed κ α)
    (key : κ) (value : α) (wanted : κ) :
    get? (insert entries key value) wanted
      = if key = wanted then some value else get? entries wanted := by
  induction entries with
  | nil => rfl
  | cons entry rest ih =>
    obtain ⟨other, old⟩ := entry
    by_cases same : other = key
    · subst same
      by_cases found : other = wanted <;> simp [insert, get?, found]
    · by_cases below : key < other
      · rw [insert, if_neg same, if_pos below, get?]
      · rw [insert, if_neg same, if_neg below, get?, get?, ih]
        by_cases found : other = wanted
        · subst found
          simp [Ne.symm same]
        · simp [found]

theorem get?_insert_self [LT κ] [DecidableLT κ] (entries : Keyed κ α)
    (key : κ) (value : α) :
    get? (insert entries key value) key = some value := by
  rw [get?_insert, if_pos rfl]

/-- The other keys keep their values. -/
theorem get?_insert_of_ne [LT κ] [DecidableLT κ] (entries : Keyed κ α)
    {key wanted : κ} (different : key ≠ wanted) (value : α) :
    get? (insert entries key value) wanted = get? entries wanted := by
  rw [get?_insert, if_neg different]

/-- Of two values that are put under one key the second one stays. -/
theorem insert_insert [LT κ] [DecidableLT κ] (entries : Keyed κ α)
    (key : κ) (first second : α) :
    insert (insert entries key first) key second
      = insert entries key second := by
  induction entries with
  | nil => simp [insert]
  | cons entry rest ih =>
    obtain ⟨other, old⟩ := entry
    by_cases same : other = key
    · simp [insert, same]
    · by_cases below : key < other
      · simp [insert, same, below]
      · simp [insert, same, below, ih]

theorem get?_erase_of_ne (entries : Keyed κ α) {key wanted : κ}
    (different : key ≠ wanted) :
    get? (erase entries key) wanted = get? entries wanted := by
  induction entries with
  | nil => rfl
  | cons entry rest ih =>
    obtain ⟨other, value⟩ := entry
    by_cases same : other = key
    · subst same
      simp [erase, get?, different]
    · rw [erase, if_neg same, get?, get?, ih]

theorem get?_eq_none_iff (entries : Keyed κ α) (key : κ) :
    get? entries key = none ↔ key ∉ keys entries := by
  induction entries with
  | nil => simp [keys]
  | cons entry rest ih =>
    obtain ⟨other, value⟩ := entry
    by_cases same : other = key
    · subst same
      simp [get?, keys]
    · simpa [get?, keys, same, Ne.symm same] using ih

theorem contains_eq_true_iff (entries : Keyed κ α) (key : κ) :
    contains entries key = true ↔ key ∈ keys entries := by
  rw [contains, Option.isSome_iff_ne_none, ne_eq, get?_eq_none_iff,
    Classical.not_not]

theorem mem_of_get?_eq_some {entries : Keyed κ α} {key : κ} {value : α}
    (found : get? entries key = some value) : (key, value) ∈ entries := by
  induction entries with
  | nil => cases found
  | cons entry rest ih =>
    obtain ⟨other, old⟩ := entry
    by_cases same : other = key
    · rw [get?, if_pos same] at found
      cases found
      subst same
      exact List.mem_cons_self
    · rw [get?, if_neg same] at found
      exact List.mem_cons_of_mem _ (ih found)

/-- Values are found under the same keys after each of them has been
changed. -/
theorem get?_map {β : Type} (change : α → β) (entries : Keyed κ α)
    (key : κ) :
    get? (entries.map fun (other, value) => (other, change value)) key
      = (get? entries key).map change := by
  induction entries with
  | nil => rfl
  | cons entry rest ih =>
    obtain ⟨other, value⟩ := entry
    by_cases same : other = key
    · simp [get?, same]
    · simpa [get?, same] using ih

/-! ### Order -/

theorem mem_keys_insert [LT κ] [DecidableLT κ] {entries : Keyed κ α}
    {key : κ} {value : α} {name : κ} :
    name ∈ keys (insert entries key value)
      ↔ name = key ∨ name ∈ keys entries := by
  induction entries with
  | nil => simp [insert, keys]
  | cons entry rest ih =>
    obtain ⟨other, old⟩ := entry
    simp only [keys] at ih
    by_cases same : other = key
    · subst same
      simp [insert, keys]
    · by_cases below : key < other
      · simp [insert, keys, same, below]
      · simp only [insert, keys, same, below, if_false, List.map_cons,
          List.mem_cons, ih]
        grind

theorem mem_keys_of_mem_keys_erase {entries : Keyed κ α} {key name : κ}
    (h : name ∈ keys (erase entries key)) : name ∈ keys entries := by
  induction entries with
  | nil => simp [erase, keys] at h
  | cons entry rest ih =>
    obtain ⟨other, value⟩ := entry
    simp only [keys] at ih ⊢
    by_cases same : other = key
    · simp only [erase, same, if_true, keys] at h
      exact List.mem_cons_of_mem _ h
    · simp only [erase, same, if_false, keys, List.map_cons,
        List.mem_cons] at h ⊢
      exact h.imp id ih

theorem Sorted.insert [LT κ] [DecidableLT κ]
    [Std.Trichotomous (· < · : κ → κ → Prop)]
    [Trans (· < · : κ → κ → Prop) (· < ·) (· < ·)]
    {entries : Keyed κ α} (h : Sorted entries) (key : κ) (value : α) :
    Sorted (Keyed.insert entries key value) := by
  induction entries with
  | nil => simp [Keyed.insert, Sorted, keys]
  | cons entry rest ih =>
    obtain ⟨other, old⟩ := entry
    obtain ⟨least, ordered⟩ := List.pairwise_cons.mp h
    by_cases same : other = key
    · subst same
      simpa [Keyed.insert, Sorted, keys] using h
    by_cases below : key < other
    · simp only [Keyed.insert, same, below, if_true, if_false, Sorted, keys,
        List.map_cons]
      refine List.pairwise_cons.mpr ⟨fun name member => ?_, h⟩
      rcases List.mem_cons.mp member with rfl | member
      · exact below
      · exact Trans.trans below (least name member)
    · simp only [Keyed.insert, same, below, if_false, Sorted, keys,
        List.map_cons]
      refine List.pairwise_cons.mpr ⟨fun name member => ?_, ih ordered⟩
      rcases mem_keys_insert.mp member with rfl | member
      · exact Classical.byContradiction fun above =>
          same (Std.Trichotomous.trichotomous other name above below)
      · exact least name member

theorem Sorted.erase [LT κ] {entries : Keyed κ α} (h : Sorted entries)
    (key : κ) : Sorted (Keyed.erase entries key) := by
  induction entries with
  | nil => exact h
  | cons entry rest ih =>
    obtain ⟨other, value⟩ := entry
    obtain ⟨least, ordered⟩ := List.pairwise_cons.mp h
    by_cases same : other = key
    · rw [Keyed.erase, if_pos same]
      exact ordered
    · simp only [Keyed.erase, same, if_false, Sorted, keys, List.map_cons]
      exact List.pairwise_cons.mpr ⟨fun name member =>
        least name (mem_keys_of_mem_keys_erase member), ih ordered⟩

omit [DecidableEq κ] in
theorem Sorted.nodup [LT κ] [Std.Asymm (· < · : κ → κ → Prop)]
    {entries : Keyed κ α} (h : Sorted entries) : (keys entries).Nodup :=
  List.Pairwise.imp (fun below same => by
    subst same
    exact Std.Asymm.asymm _ _ below below) h

/-- Every entry is found under its key. -/
theorem Sorted.get?_eq_some [LT κ] [Std.Asymm (· < · : κ → κ → Prop)]
    {entries : Keyed κ α} (h : Sorted entries) {key : κ} {value : α}
    (member : (key, value) ∈ entries) : get? entries key = some value := by
  induction entries with
  | nil => cases member
  | cons entry rest ih =>
    obtain ⟨other, old⟩ := entry
    obtain ⟨first, sorted⟩ := List.pairwise_cons.mp h
    cases member with
    | head => rw [get?, if_pos rfl]
    | tail _ later =>
      -- A key that comes again would be below itself.
      have different : other ≠ key := by
        rintro rfl
        have below := first other (List.mem_map_of_mem later)
        exact Std.Asymm.asymm _ _ below below
      rw [get?, if_neg different]
      exact ih sorted later

/-- In a map in order there is one entry to take out. -/
theorem get?_erase_self [LT κ] [Std.Asymm (· < · : κ → κ → Prop)]
    {entries : Keyed κ α} (h : Sorted entries) (key : κ) :
    get? (Keyed.erase entries key) key = none := by
  induction entries with
  | nil => rfl
  | cons entry rest ih =>
    obtain ⟨other, value⟩ := entry
    obtain ⟨absent, _⟩ := List.nodup_cons.mp h.nodup
    by_cases same : other = key
    · subst same
      rw [Keyed.erase, if_pos rfl]
      exact (get?_eq_none_iff rest other).mpr absent
    · rw [Keyed.erase, if_neg same, get?, if_neg same]
      exact ih (List.pairwise_cons.mp h).2

/-- And so all other keys stay, and no other ones. -/
theorem mem_keys_erase [LT κ] [Std.Asymm (· < · : κ → κ → Prop)]
    {entries : Keyed κ α} (h : Sorted entries) {key name : κ} :
    name ∈ keys (Keyed.erase entries key)
      ↔ name ∈ keys entries ∧ name ≠ key := by
  rw [← contains_eq_true_iff, ← contains_eq_true_iff, contains, contains]
  by_cases same : name = key
  · subst same
    simp [get?_erase_self h]
  · simp [get?_erase_of_ne entries (Ne.symm same), same]

omit [DecidableEq κ] in
/-- A map in order is told by its entries. -/
theorem Sorted.eq_of_perm [LT κ] [Std.Asymm (· < · : κ → κ → Prop)]
    {entries others : Keyed κ α} (h : Sorted entries)
    (h' : Sorted others) (same : entries.Perm others) :
    entries = others :=
  List.Perm.eq_of_pairwise
    (fun _ _ _ _ below above =>
      absurd above (Std.Asymm.asymm (r := (· < ·)) _ _ below))
    (List.pairwise_map.mp h) (List.pairwise_map.mp h') same

/-- What a new key adds is its entry alone. -/
theorem perm_insert [LT κ] [DecidableLT κ] {entries : Keyed κ α}
    {key : κ} (fresh : key ∉ keys entries) (value : α) :
    (insert entries key value).Perm ((key, value) :: entries) := by
  induction entries with
  | nil => exact List.Perm.refl _
  | cons entry rest ih =>
    obtain ⟨other, old⟩ := entry
    simp only [keys, List.map_cons, List.mem_cons, not_or] at fresh
    rw [insert, if_neg (Ne.symm fresh.1)]
    split
    · exact List.Perm.refl _
    · exact ((ih fresh.2).cons _).trans (List.Perm.swap ..)

/-- A new key that is taken out again leaves nothing behind. -/
theorem erase_insert [LT κ] [DecidableLT κ] {entries : Keyed κ α}
    {key : κ} (fresh : key ∉ keys entries) (value : α) :
    erase (insert entries key value) key = entries := by
  induction entries with
  | nil => simp [insert, erase]
  | cons entry rest ih =>
    obtain ⟨other, old⟩ := entry
    simp only [keys, List.map_cons, List.mem_cons, not_or] at fresh
    have different : other ≠ key := Ne.symm fresh.1
    rw [insert, if_neg different]
    split
    · rw [erase, if_pos rfl]
    · rw [erase, if_neg different, ih fresh.2]

/-- To put in an entry that is there already changes nothing. -/
theorem Sorted.insert_of_get? [LT κ] [DecidableLT κ]
    [Std.Asymm (· < · : κ → κ → Prop)] {entries : Keyed κ α}
    (h : Sorted entries) {key : κ} {value : α}
    (found : get? entries key = some value) :
    Keyed.insert entries key value = entries := by
  induction entries with
  | nil => cases found
  | cons entry rest ih =>
    obtain ⟨other, old⟩ := entry
    obtain ⟨first, sorted⟩ := List.pairwise_cons.mp h
    by_cases same : other = key
    · rw [get?, if_pos same] at found
      cases found
      rw [Keyed.insert, if_pos same, same]
    · rw [get?, if_neg same] at found
      -- What is found further back is not to be put in front.
      have above : other < key :=
        first key (List.mem_map_of_mem (mem_of_get?_eq_some found))
      have behind : ¬ key < other := Std.Asymm.asymm _ _ above
      rw [Keyed.insert, if_neg same, if_neg behind, ih sorted found]

/-- Put or replaced, an entry that was there already is either the new
one or an old one. -/
theorem mem_of_mem_insert [LT κ] [DecidableLT κ] {entries : Keyed κ α}
    {key : κ} {value : α} {entry : κ × α}
    (member : entry ∈ insert entries key value) :
    entry = (key, value) ∨ entry ∈ entries := by
  induction entries with
  | nil => exact .inl (List.mem_singleton.mp member)
  | cons first rest ih =>
    obtain ⟨other, old⟩ := first
    rw [insert] at member
    split at member
    · exact (List.mem_cons.mp member).imp id (List.mem_cons_of_mem _)
    · split at member
      · exact List.mem_cons.mp member
      · rcases List.mem_cons.mp member with rfl | member
        · exact .inr List.mem_cons_self
        · exact (ih member).imp id (List.mem_cons_of_mem _)

theorem mem_of_mem_erase {entries : Keyed κ α} {key : κ}
    {entry : κ × α} (member : entry ∈ erase entries key) :
    entry ∈ entries := by
  induction entries with
  | nil => exact member
  | cons first rest ih =>
    obtain ⟨other, old⟩ := first
    rw [erase] at member
    split at member
    · exact List.mem_cons_of_mem _ member
    · rcases List.mem_cons.mp member with rfl | member
      · exact List.mem_cons_self
      · exact List.mem_cons_of_mem _ (ih member)

end Keyed

end MountSpace
