import Outline.Text.Blank
import Outline.Text.Search
import Outline.Text.Word

namespace Outline.Text

theorem after?_eq_some_iff {start s rest : List Char} :
    after? start s = some rest ↔ s = start ++ rest := by
  unfold after?
  constructor
  · intro found
    split at found
    · rename_i starts
      obtain ⟨tail, rfl⟩ := List.isPrefixOf_iff_prefix.mp starts
      simpa using found
    · cases found
  · rintro rfl
    simp

theorem allBlank_eq_false_of_mem {s : List Char} {c : Char} (member : c ∈ s)
    (solid : isBlank c = false) : allBlank s = false := by
  unfold allBlank
  rw [List.all_eq_false]
  exact ⟨c, member, by simp [solid]⟩

theorem toNat_mem_of_isBlank {c : Char} (blank : isBlank c = true) :
    c.toNat ∈ [9, 10, 11, 12, 13, 0x20, 0x85, 0xA0, 0x1680, 0x2000, 0x2001, 0x2002, 0x2003, 0x2004,
      0x2005, 0x2006, 0x2007, 0x2008, 0x2009, 0x200A, 0x2028, 0x2029, 0x202F, 0x205F, 0x3000] := by
  simp only [isBlank, Bool.or_eq_true, Bool.and_eq_true, decide_eq_true_eq, beq_iff_eq] at blank
  simp only [List.mem_cons, List.not_mem_nil, or_false]
  omega

theorem isWord_of_isBlank {c : Char} (blank : isBlank c = true) : isWord c = false := by
  have points := toNat_mem_of_isBlank blank
  have same : c = Char.ofNat c.toNat := (Char.ofNat_toNat c).symm
  rw [same]
  generalize c.toNat = n at points
  revert n
  decide +kernel

theorem isWord_of_startsName {c : Char} (starts : startsName c = true) : isWord c = true := by
  simp only [startsName, Bool.or_eq_true] at starts
  rcases starts with letter | underscore
  · simp [isWord, Char.isAlphanum, letter]
  · simp [isWord, underscore]

end Outline.Text
