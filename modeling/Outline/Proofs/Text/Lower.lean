import Mathlib.Data.List.TakeWhile
import Outline.Text.Lower

namespace Outline.Text

/-- The text with all ASCII letters in lower case; no other character changes. -/
def foldCase (s : List Char) : List Char := s.map Char.toLower

theorem toLower_eq_self_or (c : Char) : c.toLower = c ∨ c.toNat ∈ List.range' 65 26 := by
  unfold Char.toLower
  split
  · rename_i capital
    right
    have low : 65 ≤ c.toNat := capital.1
    have high : c.toNat ≤ 90 := capital.2
    rw [List.mem_range'_1]
    omega
  · exact .inl rfl

theorem toLower_congr {α : Type} {f : Char → α}
    (capitals : ∀ n ∈ List.range' 65 26, f (Char.ofNat n).toLower = f (Char.ofNat n)) (c : Char) :
    f c.toLower = f c := by
  rcases toLower_eq_self_or c with same | capital
  · rw [same]
  · have letter := capitals c.toNat capital
    rw [Char.ofNat_toNat] at letter
    exact letter

theorem lowerChar_toLower (c : Char) : lowerChar c.toLower = lowerChar c :=
  toLower_congr (by decide +kernel) c

theorem isSigma_toLower (c : Char) : (c.toLower == 'Σ') = (c == 'Σ') :=
  toLower_congr (f := (· == 'Σ')) (by decide +kernel) c

theorem isCased_toLower (c : Char) : isCased c.toLower = isCased c :=
  toLower_congr (by decide +kernel) c

theorem isCaseIgnorable_toLower (c : Char) : isCaseIgnorable c.toLower = isCaseIgnorable c :=
  toLower_congr (by decide +kernel) c

theorem meetsCased_foldCase (s : List Char) : meetsCased (foldCase s) = meetsCased s := by
  simp only [meetsCased, foldCase, List.dropWhile_map, Function.comp_def, isCaseIgnorable_toLower]
  cases s.dropWhile isCaseIgnorable with
  | nil => rfl
  | cons c rest => exact isCased_toLower c

theorem lowerBehind_foldCase (before s : List Char) :
    lowerBehind (foldCase before) (foldCase s) = lowerBehind before s := by
  induction s generalizing before with
  | nil => rfl
  | cons c rest ih =>
    have later := ih (c :: before)
    have front := meetsCased_foldCase before
    have behind := meetsCased_foldCase rest
    simp only [foldCase, List.map_cons] at later front behind ⊢
    simp only [lowerBehind, lowerSigma, isSigma_toLower, lowerChar_toLower, front, behind, later]

theorem lower_foldCase (s : List Char) : lower (foldCase s) = lower s := lowerBehind_foldCase [] s

theorem lower_congr {s other : List Char} (same : foldCase s = foldCase other) :
    lower s = lower other := by
  rw [← lower_foldCase s, same, lower_foldCase]

end Outline.Text
