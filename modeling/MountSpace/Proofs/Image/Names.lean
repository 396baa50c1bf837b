import MountSpace.Tree.Image

/-!
# `MountSpace.Proofs.Image.Names`: names and their bytes

An image holds the UTF-8 bytes of names, a tree the names themselves.

* `fromUTF8?_eq_some_iff`: a byte string stands for a name exactly when it
  is the bytes of that name.
* `nameBytes_lt_iff`: names have the order of their bytes. Characters are
  ordered by their numbers, and UTF-8 keeps that order: the first byte
  tells the number of bytes, and a character with more of them has the
  greater first byte.
-/

set_option autoImplicit false

namespace MountSpace.Proofs.Image

open MountSpace.Tree (nameBytes)

/-! ### Bytes and back -/

theorem nameBytes_eq_flatMap (name : String) :
    nameBytes name = name.toList.flatMap String.utf8EncodeChar := by
  rw [nameBytes, String.toUTF8_eq_toByteArray, ← String.utf8Encode_toList,
    List.utf8Encode, List.toList_data_toByteArray]

@[simp]
theorem length_nameBytes (name : String) :
    (nameBytes name).length = name.utf8ByteSize := rfl

/-- A byte string stands for a name exactly when it is its bytes. -/
theorem fromUTF8?_eq_some_iff {data : Bytes} {name : String} :
    String.fromUTF8? ⟨data.toArray⟩ = some name ↔ data = nameBytes name := by
  unfold String.fromUTF8?
  constructor
  · intro found
    split at found
    · cases found
      rfl
    · cases found
  · rintro rfl
    have whole : (⟨(nameBytes name).toArray⟩ : ByteArray)
        = name.toByteArray := by
      simp [nameBytes]
    rw [whole, dif_pos name.isValidUTF8]
    rfl

/-! ### Order -/

/-- The lesser of two numbers has the lesser last digit, unless it is the
lesser one without it. -/
theorem div_lt_or_mod_lt {number other : Nat} (less : number < other) :
    number / 64 < other / 64
      ∨ number / 64 = other / 64 ∧ number % 64 < other % 64 := by
  omega

/-- The bytes of a lesser character come first, whatever follows. -/
theorem utf8EncodeChar_append_lt {char other : Char} (below : char < other)
    (rest more : Bytes) :
    String.utf8EncodeChar char ++ rest
      < String.utf8EncodeChar other ++ more := by
  have less : char.val.toNat < other.val.toNat := below
  have bound : other.val.toNat < 0x110000 := by
    rcases other.valid with low | ⟨_, high⟩ <;> omega
  -- Each byte but the first holds a digit of six bits.
  have digit (number : Nat) :
      (number % 64 + 128) % 256 = number % 64 + 128 := by omega
  simp only [String.utf8EncodeChar]
  by_cases wide : 0xffff < char.val.toNat
  · -- Both have four bytes, and the first digit that differs decides.
    have first {number : Nat} (small : number < 5) :
        (number % 8 + 240) % 256 = number + 240 := by omega
    rw [if_neg (by omega), if_neg (by omega), if_neg (by omega),
      if_neg (by omega), if_neg (by omega), if_neg (by omega)]
    simp only [List.cons_append, List.nil_append, List.cons_lt_cons_iff,
      UInt8.lt_iff_toNat_lt, ← UInt8.toNat_inj, UInt8.toNat_ofNat',
      show 2 ^ 8 = 256 from rfl, digit]
    rw [first (by omega), first (by omega)]
    simp only [show 262144 = 64 * 64 * 64 from rfl,
      show 4096 = 64 * 64 from rfl, ← Nat.div_div_eq_div_mul]
    rcases div_lt_or_mod_lt less with less | ⟨same, last⟩
    · rcases div_lt_or_mod_lt less with less | ⟨same, third⟩
      · rcases div_lt_or_mod_lt less with less | ⟨same, second⟩
        · omega
        · omega
      · omega
    · omega
  · -- The greater character never has fewer bytes, and where it has more
    -- its first byte is greater.
    repeat' split
    all_goals
      simp only [List.cons_append, List.nil_append, List.cons_lt_cons_iff,
        UInt8.lt_iff_toNat_lt, ← UInt8.toNat_inj, UInt8.toNat_ofNat',
        show 2 ^ 8 = 256 from rfl, digit]
      omega

/-- Texts in the order of their characters have bytes in that order. -/
theorem flatMap_utf8EncodeChar_lt {text other : List Char}
    (below : text < other) :
    text.flatMap String.utf8EncodeChar
      < other.flatMap String.utf8EncodeChar := by
  induction below with
  | @nil char rest =>
    -- No character is without bytes.
    cases bytes : String.utf8EncodeChar char with
    | nil => exact absurd bytes String.utf8EncodeChar_ne_nil
    | cons first more =>
      rw [List.flatMap_cons, bytes]
      exact List.nil_lt_cons first _
  | @rel char rest other more less =>
    rw [List.flatMap_cons, List.flatMap_cons]
    exact utf8EncodeChar_append_lt less _ _
  | @cons char rest more _ ih =>
    rw [List.flatMap_cons, List.flatMap_cons]
    exact List.append_left_lt ih

/-- Names have the order of their bytes. -/
theorem nameBytes_lt_iff (name other : String) :
    nameBytes name < nameBytes other ↔ name < other := by
  have upward {name other : String} (below : name < other) :
      nameBytes name < nameBytes other := by
    rw [nameBytes_eq_flatMap, nameBytes_eq_flatMap]
    exact flatMap_utf8EncodeChar_lt below
  refine ⟨fun below => ?_, upward⟩
  rcases Std.lt_trichotomy name other with less | rfl | greater
  · exact less
  · exact absurd below (List.lt_irrefl _)
  · exact absurd below (List.lt_asymm (upward greater))

end MountSpace.Proofs.Image
