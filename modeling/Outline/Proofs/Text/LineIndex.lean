import Mathlib.Data.List.Forall2
import Outline.Proofs.Text.Lines
import Outline.Proofs.Text.Utf8

namespace Outline.Text

open String (utf8EncodeChar)

/-- A line cut from its terminator: a carriage return and a line feed, of which either may be
missing. A carriage return that stands behind the line is part of the terminator. -/
structure IsCut (line terminator : List Char) : Prop where
  no_feed : '\n' ∉ line
  marks : terminator.Sublist ['\r', '\n']
  return_taken : '\r' ∉ terminator → line.getLast? ≠ some '\r'

/-- The text falls into the lines, each followed by its terminator. Only the last terminator may
lack a line feed, and no line is empty together with its terminator. -/
structure IsSplit (text : List Char) (lines terminators : List (List Char)) : Prop where
  cuts : List.Forall₂ IsCut lines terminators
  terminated : ∀ terminator ∈ terminators.dropLast, '\n' ∈ terminator
  filled : [] ∉ List.zipWith (· ++ ·) lines terminators
  joined : (List.zipWith (· ++ ·) lines terminators).flatten = text

theorem dropEnd_isPrefix (mark : Char) (s : List Char) : dropEnd mark s <+: s := by
  rcases dropEnd_cases mark s with same | longer
  · exact ⟨[], by rw [same, List.append_nil]⟩
  · exact ⟨[mark], longer.symm⟩

theorem dropEnd_eq_iff {mark : Char} {s rest : List Char} :
    dropEnd mark s = rest ↔ s = rest ++ [mark] ∨ s = rest ∧ rest.getLast? ≠ some mark := by
  constructor
  · rintro rfl
    rcases dropEnd_cases mark s with same | longer
    · right
      refine ⟨same.symm, ?_⟩
      intro last
      rw [same] at last
      obtain ⟨front, rfl⟩ := List.getLast?_eq_some_iff.mp last
      rw [dropEnd_concat] at same
      simp at same
    · exact .inl longer
  · rintro (rfl | ⟨rfl, other⟩)
    · exact dropEnd_concat mark rest
    · rcases dropEnd_cases mark s with same | longer
      · exact same
      · rw [longer] at other
        simp at other

theorem isCut_iff {line terminator : List Char} :
    IsCut line terminator ↔ ∃ raw, '\n' ∉ raw ∧ dropEnd '\r' raw = line ∧
      (line ++ terminator = raw ∨ line ++ terminator = raw ++ ['\n']) := by
  simp only [dropEnd_eq_iff]
  constructor
  · rintro ⟨free, marks, taken⟩
    simp only [List.sublist_cons_iff, List.sublist_nil] at marks
    rcases marks with (rfl | ⟨_, rfl, rfl⟩) | ⟨_, rfl, rfl | ⟨_, rfl, rfl⟩⟩
    · exact ⟨line, free, .inr ⟨rfl, taken (by simp)⟩, .inl (List.append_nil line)⟩
    · exact ⟨line, free, .inr ⟨rfl, taken (by simp)⟩, .inr rfl⟩
    · exact ⟨line ++ ['\r'], by simp [free], .inl rfl, .inl rfl⟩
    · exact ⟨line ++ ['\r'], by simp [free], .inl rfl, .inr (by simp)⟩
  · rintro ⟨raw, free, rfl | ⟨rfl, other⟩, whole⟩
    · have kinds : terminator = ['\r'] ∨ terminator = ['\r', '\n'] := by simpa using whole
      refine ⟨fun feed => free (List.mem_append_left _ feed), ?_, ?_⟩
      · rcases kinds with rfl | rfl <;> decide
      · rcases kinds with rfl | rfl <;> simp
    · have kinds : terminator = [] ∨ terminator = ['\n'] := by simpa using whole
      refine ⟨free, ?_, fun _ => other⟩
      rcases kinds with rfl | rfl <;> decide

theorem forall_mem_dropLast_cons {α : Type} {p : α → Prop} {a : α} {rest : List α} :
    (∀ x ∈ (a :: rest).dropLast, p x) ↔ (rest ≠ [] → p a) ∧ ∀ x ∈ rest.dropLast, p x := by
  cases rest with
  | nil => simp
  | cons b rest => simp

theorem isSplit_nil : IsSplit [] [] [] where
  cuts := .nil
  terminated := by simp
  filled := List.not_mem_nil
  joined := rfl

theorem isSplit_cons_iff {text line terminator : List Char}
    {lines terminators : List (List Char)} :
    IsSplit text (line :: lines) (terminator :: terminators) ↔
      IsCut line terminator ∧ (terminators ≠ [] → '\n' ∈ terminator) ∧ line ++ terminator ≠ [] ∧
        ∃ rest, line ++ terminator ++ rest = text ∧ IsSplit rest lines terminators := by
  constructor
  · rintro ⟨cuts, terminated, filled, joined⟩
    obtain ⟨cut, cuts⟩ := List.forall₂_cons.mp cuts
    obtain ⟨feed, terminated⟩ := forall_mem_dropLast_cons.mp terminated
    rw [List.zipWith_cons_cons] at filled joined
    obtain ⟨some, filled⟩ := List.ne_and_not_mem_of_not_mem_cons filled
    exact ⟨cut, feed, some.symm, _, joined, cuts, terminated, filled, rfl⟩
  · rintro ⟨cut, feed, some, rest, joined, split⟩
    refine ⟨.cons cut split.cuts, forall_mem_dropLast_cons.mpr ⟨feed, split.terminated⟩, ?_, ?_⟩
    · exact List.not_mem_cons_of_ne_of_not_mem some.symm split.filled
    · rw [List.zipWith_cons_cons, List.flatten_cons, split.joined, joined]

theorem exists_isSplit (text : List Char) :
    ∃ terminators, IsSplit text (LineIndex.ofText text).lines terminators := by
  induction text using lines_induction with
  | nil => exact ⟨[], isSplit_nil⟩
  | last line filled free =>
    obtain ⟨terminator, whole⟩ := dropEnd_isPrefix '\r' line
    have cut := isCut_iff.mpr ⟨line, free, rfl, .inl whole⟩
    rw [lines_of_last free filled]
    refine ⟨[terminator], isSplit_cons_iff.mpr ⟨cut, by simp, ?_, [], ?_, isSplit_nil⟩⟩
    · rwa [whole]
    · rw [whole, List.append_nil]
  | line line rest free ih =>
    obtain ⟨terminators, split⟩ := ih
    obtain ⟨mark, whole⟩ := dropEnd_isPrefix '\r' line
    have ended : dropEnd '\r' line ++ (mark ++ ['\n']) = line ++ ['\n'] := by
      rw [← List.append_assoc, whole]
    have cut := isCut_iff.mpr ⟨line, free, rfl, .inr ended⟩
    rw [lines_of_line free]
    refine ⟨(mark ++ ['\n']) :: terminators,
      isSplit_cons_iff.mpr ⟨cut, by simp, by simp, rest, ?_, split⟩⟩
    rw [ended, List.append_assoc, List.singleton_append]

theorem IsSplit.lines_eq {text : List Char} {lines terminators : List (List Char)}
    (split : IsSplit text lines terminators) : lines = (LineIndex.ofText text).lines := by
  induction lines generalizing text terminators with
  | nil =>
    cases split.cuts
    rw [← split.joined]
    rfl
  | cons line lines ih =>
    obtain _ | ⟨terminator, terminators⟩ := terminators
    · cases split.cuts
    obtain ⟨cut, feed, some, rest, rfl, later⟩ := isSplit_cons_iff.mp split
    obtain ⟨raw, free, dropped, whole | whole⟩ := isCut_iff.mp cut
    · -- A terminator without a line feed is the last one.
      have alone : terminators = [] := by
        by_contra more
        rw [← whole] at free
        exact free (List.mem_append_right line (feed more))
      subst alone
      cases later.cuts
      obtain rfl : [] = rest := later.joined
      rw [whole] at some ⊢
      rw [List.append_nil, lines_of_last free some, dropped]
    · rw [whole, List.append_assoc, List.singleton_append, lines_of_line free, dropped, ← ih later]

-- One carriage return belongs to the terminator, also on a last line without a line feed.
example : (LineIndex.ofText "a\r\r\n\r".toList).lines = ["a\r".toList, []] := by decide

theorem length_lines (text : List Char) :
    (LineIndex.ofText text).lines.length =
      text.count '\n' + if text ≠ [] ∧ text.getLast? ≠ some '\n' then 1 else 0 := by
  induction text using lines_induction with
  | nil => rfl
  | last line filled free =>
    have unended : line.getLast? ≠ some '\n' := fun last => free (List.mem_of_getLast? last)
    rw [lines_of_last free filled, List.count_eq_zero.mpr free, if_pos ⟨filled, unended⟩]
    rfl
  | line line rest free ih =>
    rw [lines_of_line free, List.length_cons, ih, List.count_append, List.count_eq_zero.mpr free,
      List.count_cons_self]
    by_cases empty : rest = []
    · subst empty
      simp
    · have same : (line ++ '\n' :: rest).getLast? = rest.getLast? := by
        simp [List.getLast?_append, List.getLast?_cons, List.getLast?_eq_some_getLast empty]
      simp only [same, empty, ne_eq, not_false_eq_true, true_and, List.append_eq_nil_iff,
        List.cons_ne_nil, and_false]
      omega

def feedsBefore (text : List Char) (offset : Nat) : Nat :=
  ((bytesOf (String.ofList text)).take offset).count 0x0A

theorem feed_mem_utf8EncodeChar {c : Char} : 0x0A ∈ utf8EncodeChar c ↔ c = '\n' := by
  constructor
  · intro member
    -- A byte of a character of several bytes is 128 or more.
    have point : c.val.toNat = 10 := by
      unfold utf8EncodeChar at member
      generalize c.val.toNat = n at member
      dsimp only at member
      split_ifs at member
      all_goals
        simp only [List.mem_cons, List.not_mem_nil, or_false, ← UInt8.toNat_inj,
          UInt8.toNat_ofNat', UInt8.toNat_ofNat] at member
        omega
    exact Char.ext (UInt32.toNat_inj.mp point)
  · rintro rfl
    decide

theorem length_flatMap_utf8EncodeChar (s : List Char) :
    (s.flatMap utf8EncodeChar).length = byteLength s := by
  induction s with
  | nil => rfl
  | cons c s ih =>
    rw [List.flatMap_cons, List.length_append, String.length_utf8EncodeChar, ih, byteLength_cons]

theorem feed_not_mem_bytes {line : List Char} (free : '\n' ∉ line) :
    0x0A ∉ line.flatMap utf8EncodeChar := by
  intro member
  obtain ⟨c, inside, byte⟩ := List.mem_flatMap.mp member
  rw [feed_mem_utf8EncodeChar] at byte
  subst byte
  exact free inside

theorem feedsBefore_eq (text : List Char) (offset : Nat) :
    feedsBefore text offset = ((text.flatMap utf8EncodeChar).take offset).count 0x0A := by
  rw [feedsBefore, bytesOf_eq_flatMap, String.toList_ofList]

theorem feedsBefore_of_free {line : List Char} (free : '\n' ∉ line) (offset : Nat) :
    feedsBefore line offset = 0 := by
  rw [feedsBefore_eq, List.count_eq_zero]
  exact fun member => feed_not_mem_bytes free (List.mem_of_mem_take member)

theorem feedsBefore_first {line : List Char} (free : '\n' ∉ line) (rest : List Char) {offset : Nat}
    (within : offset ≤ byteLength line) : feedsBefore (line ++ '\n' :: rest) offset = 0 := by
  rw [← length_flatMap_utf8EncodeChar] at within
  rw [feedsBefore_eq, List.flatMap_append, List.take_append_of_le_length within, ← feedsBefore_eq,
    feedsBefore_of_free free]

theorem feedsBefore_later {line : List Char} (free : '\n' ∉ line) (rest : List Char)
    (offset : Nat) :
    feedsBefore (line ++ '\n' :: rest) (offset + (byteLength line + 1)) =
      feedsBefore rest offset + 1 := by
  have feed : utf8EncodeChar '\n' = [0x0A] := by decide
  have behind : offset + (byteLength line + 1) =
      (line.flatMap utf8EncodeChar).length + (offset + 1) := by
    rw [length_flatMap_utf8EncodeChar]
    omega
  rw [feedsBefore_eq, feedsBefore_eq, behind, List.flatMap_append, List.take_length_add_append,
    List.count_append, List.count_eq_zero.mpr (feed_not_mem_bytes free), List.flatMap_cons, feed,
    List.singleton_append, List.take_succ_cons, List.count_cons_self, Nat.zero_add]

/-- Halving finds the line that the line feeds before an offset lead to. -/
theorem lineOf_eq_feedsBefore (text : List Char) (offset : Nat) :
    (LineIndex.ofText text).lineOf offset =
      min (1 + feedsBefore text offset) (max 1 (LineIndex.ofText text).lines.length) := by
  induction text using lines_induction generalizing offset with
  | nil =>
    rw [lineOf_last List.not_mem_nil, feedsBefore_of_free List.not_mem_nil]
    omega
  | last line filled free =>
    rw [lineOf_last free, feedsBefore_of_free free]
    omega
  | line line rest free ih =>
    rw [lines_of_line free, List.length_cons]
    by_cases within : offset ≤ byteLength line
    · rw [lineOf_first free rest within, feedsBefore_first free rest within]
      omega
    · obtain ⟨behind, rfl⟩ : ∃ behind, offset = behind + (byteLength line + 1) :=
        ⟨offset - (byteLength line + 1), by omega⟩
      rw [feedsBefore_later free]
      by_cases empty : rest = []
      · -- Behind a final line feed there is no line to count on with.
        subst empty
        rw [lineOf_ofText, starts_of_line free]
        simp [LineIndex.ofText, pieces, piecesFrom, startsFrom]
      · have some : (LineIndex.ofText rest).lines ≠ [] := by
          simpa [LineIndex.ofText] using pieces_ne_nil empty
        have positive := List.length_pos_iff.mpr some
        rw [lineOf_later free empty, ih]
        omega

-- Offsets at a character of two bytes, inside it, at the line feed, behind it and past the end.
example : [0, 1, 2, 3, 9].map (LineIndex.ofText "é\nb".toList).lineOf = [1, 1, 1, 2, 2] := by
  decide +kernel

theorem LineIndex.splits_text_and_numbers_bytes (text : List Char) :
    (∀ lines, (∃ terminators, IsSplit text lines terminators) ↔
      lines = (LineIndex.ofText text).lines) ∧
    (LineIndex.ofText text).lines.length =
      text.count '\n' + (if text ≠ [] ∧ text.getLast? ≠ some '\n' then 1 else 0) ∧
    ∀ offset, (LineIndex.ofText text).lineOf offset =
      min (1 + feedsBefore text offset) (max 1 (LineIndex.ofText text).lines.length) := by
  refine ⟨fun lines => ⟨?_, ?_⟩, length_lines text, lineOf_eq_feedsBefore text⟩
  · rintro ⟨terminators, split⟩
    exact split.lines_eq
  · rintro rfl
    exact exists_isSplit text

end Outline.Text
