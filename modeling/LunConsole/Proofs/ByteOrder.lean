import LunConsole.Text.Percent
import Mathlib.Data.List.Induction
/-!
# The order of texts is the order of their bytes

Texts are compared character by character. Other programs compare the bytes of the two in UTF-8.
The two orders are one (`bytes_lt_iff`), because UTF-8 is made so: of two characters the greater one
has the greater bytes, and since neither has the other for a beginning, this is settled before
anything that follows them is looked at (`utf8EncodeChar_append_lt`).
-/

set_option autoImplicit false

namespace LunConsole.Text

/-- The bytes of a text in UTF-8. -/
def bytes (s : String) : List UInt8 := s.toUTF8.data.toList

theorem bytes_eq_flatMap (s : String) : bytes s = s.toList.flatMap String.utf8EncodeChar := by
  have hbytes : s.toUTF8 = (s.toList.flatMap String.utf8EncodeChar).toByteArray :=
    String.utf8Encode_toList.symm
  rw [bytes, hbytes, List.toList_data_toByteArray]

private theorem ofNat_lt_ofNat {a b : Nat} (ha : a < 256) (hb : b < 256) :
    UInt8.ofNat a < UInt8.ofNat b ↔ a < b := by
  rw [UInt8.lt_iff_toNat_lt, UInt8.toNat_ofNat_of_lt' ha, UInt8.toNat_ofNat_of_lt' hb]

private theorem ofNat_eq_ofNat {a b : Nat} (ha : a < 256) (hb : b < 256) :
    UInt8.ofNat a = UInt8.ofNat b ↔ a = b := by
  rw [← UInt8.toNat_inj, UInt8.toNat_ofNat_of_lt' ha, UInt8.toNat_ofNat_of_lt' hb]

/-- A greater character has greater bytes, whatever follows either. -/
theorem utf8EncodeChar_append_lt {c d : Char} (h : c < d) (s t : List UInt8) :
    String.utf8EncodeChar c ++ s < String.utf8EncodeChar d ++ t := by
  have hval : c.val.toNat < d.val.toNat := h
  have hmax : d.val.toNat < 0x110000 := by
    rcases d.valid with hlow | hhigh
    · exact Nat.lt_trans hlow (by decide)
    · exact hhigh.2
  unfold String.utf8EncodeChar
  generalize c.val.toNat = m at hval ⊢
  generalize d.val.toNat = n at hval hmax ⊢
  -- what is left of either when six bits at a time are taken off at the end
  have hm : m / 64 / 64 = m / 4096 ∧ m / 4096 / 64 = m / 262144 ∧ m / 262144 / 8 = 0 := by omega
  have hn : n / 64 / 64 = n / 4096 ∧ n / 4096 / 64 = n / 262144 ∧ n / 262144 / 8 = 0 := by omega
  -- in each of the three places they differ there, or else only behind it
  have hlast : m / 64 < n / 64 ∨ m / 64 = n / 64 ∧ m % 64 < n % 64 := by omega
  have hmiddle : m / 4096 < n / 4096 ∨ m / 4096 = n / 4096 ∧ m / 64 ≤ n / 64 := by omega
  have hfirst : m / 262144 < n / 262144 ∨ m / 262144 = n / 262144 ∧ m / 4096 ≤ n / 4096 := by
    omega
  simp only
  split_ifs <;>
    simp (disch := omega) only [List.cons_append, List.nil_append, List.cons_lt_cons_iff,
      ofNat_lt_ofNat, ofNat_eq_ofNat] <;>
    omega

theorem flatMap_utf8EncodeChar_lt {s t : List Char} (h : s < t) :
    s.flatMap String.utf8EncodeChar < t.flatMap String.utf8EncodeChar := by
  induction s generalizing t with
  | nil =>
      cases t with
      | nil => exact absurd h (List.lt_irrefl [])
      | cons d t =>
          obtain ⟨b, bs, hbytes⟩ :=
            List.exists_cons_of_ne_nil (String.utf8EncodeChar_ne_nil (c := d))
          rw [List.flatMap_nil, List.flatMap_cons, hbytes, List.cons_append]
          exact List.nil_lt_cons _ _
  | cons c s ih =>
      cases t with
      | nil => exact absurd h (List.not_lt_nil _)
      | cons d t =>
          rw [List.flatMap_cons, List.flatMap_cons]
          rcases List.cons_lt_cons_iff.mp h with hcd | ⟨rfl, hst⟩
          · exact utf8EncodeChar_append_lt hcd _ _
          · exact List.append_left_lt (ih hst)

/-- **The two orders are one.** -/
theorem bytes_lt_iff {s t : String} : bytes s < bytes t ↔ s < t := by
  have hmono : ∀ {s t : String}, s < t → bytes s < bytes t := fun {s t} h => by
    rw [bytes_eq_flatMap, bytes_eq_flatMap]
    exact flatMap_utf8EncodeChar_lt (String.lt_iff.mp h)
  constructor
  · intro h
    rcases Std.lt_trichotomy s t with hlt | heq | hgt
    · exact hlt
    · exact absurd h (heq ▸ List.lt_irrefl _)
    · exact absurd h (List.lt_asymm (hmono hgt))
  · exact hmono

theorem bytes_le_iff {s t : String} : bytes s ≤ bytes t ↔ s ≤ t :=
  not_congr bytes_lt_iff

end LunConsole.Text
