import Mathlib.Data.List.Lex
import Mathlib.Data.String.Basic
import Outline.Text.Utf8

namespace Outline.Text

open String (utf8EncodeChar)

theorem utf8EncodeChar_append_lt {c d : Char} (less : c < d) (s t : List UInt8) :
    utf8EncodeChar c ++ s < utf8EncodeChar d ++ t := by
  have below : c.val.toNat < d.val.toNat := less
  have bound : d.val.toNat < 0x110000 := by
    have valid := d.valid
    simp only [UInt32.isValidChar, Nat.isValidChar] at valid
    omega
  unfold utf8EncodeChar
  generalize c.val.toNat = m at below
  generalize d.val.toNat = n at below bound
  have digits : ∀ k : Nat, k / 4096 = k / 64 / 64 ∧ k / 262144 = k / 64 / 64 / 64 := by omega
  have inByte : ∀ k : Nat, (k % 64 + 128) % 2 ^ 8 = k % 64 + 128 ∧
      (k % 32 + 192) % 2 ^ 8 = k % 32 + 192 ∧ (k % 16 + 224) % 2 ^ 8 = k % 16 + 224 ∧
      (k % 8 + 240) % 2 ^ 8 = k % 8 + 240 := by omega
  -- more bytes begin with a greater one; as many bytes are the digits of the code points
  dsimp only
  split_ifs
  all_goals
    simp only [List.cons_append, List.nil_append, List.cons_lt_cons_iff, UInt8.lt_iff_toNat_lt,
      ← UInt8.toNat_inj, UInt8.toNat_ofNat', digits, inByte]
    omega

theorem flatMap_utf8EncodeChar_lt {s t : List Char} (less : s < t) :
    s.flatMap utf8EncodeChar < t.flatMap utf8EncodeChar := by
  have lex : List.Lex (· < ·) s t := less
  induction lex with
  | @nil c rest =>
    have positive : 0 < (utf8EncodeChar c).length := by
      rw [String.length_utf8EncodeChar]
      exact Char.utf8Size_pos c
    obtain ⟨first, more, bytes⟩ := List.exists_cons_of_length_pos positive
    rw [List.flatMap_cons, bytes]
    exact List.nil_lt_cons _ _
  | cons _ ih =>
    rw [List.flatMap_cons, List.flatMap_cons]
    exact List.append_left_lt (ih ‹_›)
  | rel smaller =>
    rw [List.flatMap_cons, List.flatMap_cons]
    exact utf8EncodeChar_append_lt smaller _ _

theorem bytesOf_eq_flatMap (text : String) :
    bytesOf text = text.toList.flatMap utf8EncodeChar := by
  rw [bytesOf, String.toUTF8_eq_toByteArray, ← String.utf8Encode_toList, List.utf8Encode,
    List.toList_data_toByteArray]

/-- The order of texts is the order of their bytes. -/
theorem bytesOf_lt_iff {a b : String} : bytesOf a < bytesOf b ↔ a < b := by
  have forwards : ∀ {a b : String}, a < b → bytesOf a < bytesOf b := by
    intro a b less
    rw [bytesOf_eq_flatMap, bytesOf_eq_flatMap]
    exact flatMap_utf8EncodeChar_lt (String.lt_iff.mp less)
  constructor
  · intro less
    rcases lt_trichotomy a b with before | rfl | after
    · exact before
    · exact absurd less (List.lt_irrefl _)
    · exact absurd less (List.lt_asymm (forwards after))
  · exact forwards

end Outline.Text
