import MountSpace.Proofs.Trees.Lookups

/-!
# `MountSpace.Proofs.Trees.Exchanges`: one entry for another

An edit of a tree exchanges one entry of one directory: what is under the
last name of a path, or that there is nothing, for something else
(`Exchanged`). The names in the directory change by that one at most, the
directories further up keep theirs, and whatever is not on the way is the
same tree as before.

* `Edited.exchanged`: every edit is of this kind.
* `remove_put`: to take out again what was put where nothing was gives
  back the very tree there was, with all entries in their order.
-/

set_option autoImplicit false

namespace MountSpace.Proofs.Trees

/-- What a look-up answers where there is this tree, or none. -/
def answer : Option Tree → Except Fault Tree
  | some tree => .ok tree
  | none => .error .notFound

/-- One entry is exchanged: at the path there is something else than
before, or nothing any more. -/
structure Exchanged (path : List String) (old new : Option Tree)
    (root after : Tree) : Prop where
  /-- The root is no entry. -/
  entry : path ≠ []
  before : root.lookup path = answer old
  since : after.lookup path = answer new
  /-- The entry is in a directory. That one and those above it are still
  there, with the same names other than the last one of the path. -/
  above : ∀ wanted, wanted <+: path → wanted ≠ path →
    ∃ entries others, root.lookup wanted = .ok (.directory entries)
      ∧ after.lookup wanted = .ok (.directory others)
      ∧ ∀ name, name ∈ Keyed.keys others
        ↔ if path = wanted ++ [name] then new.isSome = true
          else name ∈ Keyed.keys entries
  /-- What does not lie on the way stays as it is. -/
  elsewhere : ∀ wanted, Apart path wanted →
    after.lookup wanted = root.lookup wanted

section

variable {entries : Keyed String Tree} {root tree after : Tree}
  {path : List String} {old new : Option Tree}

theorem present_iff_of_answer {tree : Option Tree}
    (found : root.lookup path = answer tree) :
    Present root path ↔ tree.isSome = true := by
  rw [Present, found]
  cases tree <;> simp [answer]

/-- The directory that holds an entry. -/
theorem Exchanged.parent (exchanged : Exchanged path old new root after) :
    DirectoryAt root path.dropLast ∧ DirectoryAt after path.dropLast := by
  have shorter : path.dropLast ≠ path := by
    intro same
    have lengths := congrArg List.length same
    have some := List.length_pos_iff.mpr exchanged.entry
    rw [List.length_dropLast] at lengths
    omega
  obtain ⟨entries, others, before, since, _⟩ :=
    exchanged.above path.dropLast (List.dropLast_prefix path) shorter
  exact ⟨⟨entries, before⟩, ⟨others, since⟩⟩

/-- An edit exchanges what is at its path. -/
theorem Edited.exchanged {below : List String → Except Fault Tree}
    (edited : Edited path below root after) (entry : path ≠ [])
    (before : root.lookup path = answer old)
    (leaves : below [] = answer new) :
    Exchanged path old new root after := by
  have since : after.lookup path = answer new := by
    have there := edited.within []
    rwa [List.append_nil, leaves] at there
  refine ⟨entry, before, since, ?_, edited.apart⟩
  intro wanted prefixed different
  obtain ⟨⟨entries, was⟩, ⟨others, is⟩⟩ :=
    edited.above wanted prefixed different
  refine ⟨entries, others, was, is, fun name => ?_⟩
  split
  · next here =>
    rw [mem_keys_iff_present is, ← here]
    exact present_iff_of_answer since
  · next other =>
    -- One step from the way there is the path, or something beside it.
    have outside : ¬ path <+: wanted ++ [name] := by
      intro reaches
      rcases List.prefix_concat_iff.mp reaches with same | shorter
      · exact other same
      · exact different (prefixed.eq_of_length_le shorter.length_le)
    rw [mem_keys_iff_present is, mem_keys_iff_present was]
    exact edited.present_iff outside

/-- The root cannot be edited, it is in no directory. -/
theorem ne_nil_of_editEntries
    {change : String → Keyed String Tree → Keyed String Tree}
    (edit : root.editEntries change path = .ok after) : path ≠ [] := by
  rintro rfl
  cases root <;> nomatch edit

/-- A tree that is put takes the place of what was at the path. -/
theorem exchanged_put (before : root.lookup path = answer old)
    (put : root.put path tree = .ok after) :
    Exchanged path old (some tree) root after :=
  (edited_put put).exchanged (ne_nil_of_editEntries put) before rfl

/-- What is taken out leaves nothing behind. -/
theorem exchanged_remove (formed : root.WellFormed)
    (before : root.lookup path = answer old)
    (remove : root.remove path = .ok after) :
    Exchanged path old none root after :=
  (edited_remove formed remove).exchanged (ne_nil_of_editEntries remove)
    before rfl

/-- A tree that was put where nothing was can be taken out again, and then
everything is as it was. -/
theorem remove_put (formed : root.WellFormed)
    (missing : root.lookup path = .error .notFound)
    (put : root.put path tree = .ok after) :
    after.remove path = .ok root := by
  induction path generalizing root after with
  | nil => exact absurd rfl (ne_nil_of_editEntries put)
  | cons name rest ih =>
    rw [Tree.put] at put
    by_cases last : rest = []
    · subst last
      obtain ⟨entries, rfl, rfl⟩ := editEntries_single_eq_ok put
      have fresh : name ∉ Keyed.keys entries := by
        rw [← Keyed.get?_eq_none_iff]
        rw [lookup_directory_cons] at missing
        split at missing
        · cases missing
        · next none => exact none
      have back : Keyed.erase (Keyed.insert entries name tree) name
          = entries := Keyed.erase_insert fresh tree
      exact congrArg (fun left => Except.ok (Tree.directory left)) back
    · -- Further down the directory with the new entry takes the place of
      -- the old one, and after that the old one its own place again.
      obtain ⟨entries, child, edited, rfl, entry, inner, rfl⟩ :=
        editEntries_cons_eq_ok last put
      rw [lookup_directory_of_get? entry] at missing
      have back : edited.editEntries
          (fun name entries => Keyed.erase entries name) rest = .ok child :=
        ih (of_get?_eq_some formed entry).2 missing inner
      have entered : Keyed.get? (Keyed.insert entries name edited) name
          = some edited := Keyed.get?_insert_self ..
      have sorted := (wellFormed_directory_iff.mp formed).1
      rw [Tree.remove, editEntries_cons last entered, back]
      show Except.ok (Tree.directory _) = _
      rw [Keyed.insert_insert, sorted.insert_of_get? entry]

end

end MountSpace.Proofs.Trees
