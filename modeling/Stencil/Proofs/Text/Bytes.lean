import Mathlib.Data.String.Basic

/-!
# The order of texts is the order of their bytes

Texts are compared character by character, and the names in a directory are put in the order of
their bytes. In UTF-8 that is the same: of two different characters the greater one has the greater
bytes, whatever comes behind them (`encode_append_lt`), and so it is for texts (`bytes_lt_bytes_iff`).
-/

set_option autoImplicit false

namespace Stencil.Text

/-- The bytes of a text. -/
def bytes (s : String) : List UInt8 :=
  s.toByteArray.data.toList

theorem bytes_eq_flatMap (s : String) : bytes s = s.toList.flatMap String.utf8EncodeChar := by
  rw [bytes, ← String.utf8Encode_toList, List.utf8Encode]
  simp

/-- Bytes are compared by their values. -/
theorem ofNat_cons_lt_ofNat_cons {a b : Nat} (ha : a < 256) (hb : b < 256) (x y : List UInt8) :
    UInt8.ofNat a :: x < UInt8.ofNat b :: y ↔ a < b ∨ a = b ∧ x < y := by
  rw [List.cons_lt_cons_iff, UInt8.lt_iff_toNat_lt, ← UInt8.toNat_inj, UInt8.toNat_ofNat_of_lt' ha,
    UInt8.toNat_ofNat_of_lt' hb]

theorem toNat_lt (c : Char) : c.val.toNat < 0x110000 := by
  rcases c.valid with h | h
  · exact Nat.lt_trans h (by decide)
  · exact h.2

/-- The greater of two characters has the greater bytes, whatever comes behind them. -/
theorem encode_append_lt {c d : Char} (h : c < d) (x y : List UInt8) :
    String.utf8EncodeChar c ++ x < String.utf8EncodeChar d ++ y := by
  have hval : c.val.toNat < d.val.toNat := h
  have hc : c.val.toNat < 0x110000 := toNat_lt c
  have hd : d.val.toNat < 0x110000 := toNat_lt d
  -- the bytes are the digits of the character's number, to the base 64
  have hthird : ∀ n, n / 4096 = n / 64 / 64 := by omega
  have hfourth : ∀ n, n / 262144 = n / 64 / 64 / 64 := by omega
  unfold String.utf8EncodeChar
  dsimp only
  simp only [hthird, hfourth]
  -- fewer bytes start with a smaller one; of as many, the first digit that differs decides
  split_ifs <;> simp only [List.cons_append, List.nil_append] <;>
    simp (disch := omega) only [ofNat_cons_lt_ofNat_cons] <;> omega

theorem flatMap_encode_lt {cs ds : List Char} (h : cs < ds) :
    cs.flatMap String.utf8EncodeChar < ds.flatMap String.utf8EncodeChar := by
  induction cs generalizing ds with
  | nil =>
    obtain ⟨d, ds, rfl⟩ := List.exists_cons_of_ne_nil (l := ds) (by rintro rfl; simp at h)
    obtain ⟨b, bs, hd⟩ := List.exists_cons_of_ne_nil (String.utf8EncodeChar_ne_nil (c := d))
    rw [List.flatMap_nil, List.flatMap_cons, hd]
    exact List.nil_lt_cons b _
  | cons c cs ih =>
    obtain ⟨d, ds, rfl⟩ := List.exists_cons_of_ne_nil (l := ds) (by rintro rfl; simp at h)
    rw [List.flatMap_cons, List.flatMap_cons]
    rcases List.cons_lt_cons_iff.1 h with hlt | ⟨rfl, hrest⟩
    · exact encode_append_lt hlt _ _
    · exact List.append_left_lt (ih hrest)

theorem bytes_lt_bytes {s t : String} (h : s < t) : bytes s < bytes t := by
  rw [bytes_eq_flatMap, bytes_eq_flatMap]
  exact flatMap_encode_lt (String.lt_iff_toList_lt.1 h)

/-- Texts are in the order of their bytes. -/
theorem bytes_lt_bytes_iff {s t : String} : bytes s < bytes t ↔ s < t := by
  have hasymm : ∀ x y : List UInt8, x < y → ¬ y < x := fun _ _ => List.lt_asymm
  refine ⟨fun h => ?_, bytes_lt_bytes⟩
  rcases lt_trichotomy s t with hlt | rfl | hgt
  · exact hlt
  · exact absurd h (hasymm _ _ h)
  · exact absurd h (hasymm _ _ (bytes_lt_bytes hgt))

/-- Bytes are read as the text whose bytes they are. -/
theorem fromUTF8?_eq_some_iff {b : ByteArray} {s : String} :
    String.fromUTF8? b = some s ↔ s.toUTF8 = b := by
  unfold String.fromUTF8?
  constructor
  · intro h
    split at h
    · rw [← Option.some.inj h]
      rfl
    · exact absurd h (by simp)
  · rintro rfl
    exact dif_pos s.isValidUTF8

end Stencil.Text
