import Outline.Text.Lines

namespace Outline.Text

@[elab_as_elim]
theorem lines_induction {motive : List Char → Prop} (nil : motive [])
    (last : ∀ line, line ≠ [] → '\n' ∉ line → motive line)
    (line : ∀ line rest, '\n' ∉ line → motive rest → motive (line ++ '\n' :: rest))
    (text : List Char) : motive text := by
  -- The invariant is about all texts with a line feed-free beginning, which the recursion extends.
  suffices all : ∀ rest begun, '\n' ∉ begun → motive rest ∧ motive (begun ++ rest) from
    (all text [] (by simp)).1
  intro rest
  induction rest with
  | nil =>
    intro begun free
    refine ⟨nil, ?_⟩
    by_cases empty : begun = []
    · simpa [empty] using nil
    · simpa using last begun empty free
  | cons c rest ih =>
    intro begun free
    by_cases feed : c = '\n'
    · subst feed
      have behind := (ih [] (by simp)).1
      exact ⟨line [] rest (by simp) behind, line begun rest free behind⟩
    · have extend : ∀ front, '\n' ∉ front → motive (front ++ c :: rest) := by
        intro front clean
        have next := (ih (front ++ [c]) (by simp [clean, Ne.symm feed])).2
        simpa using next
      exact ⟨extend [] (by simp), extend begun free⟩

theorem piecesFrom_line {line : List Char} (free : '\n' ∉ line) (held rest : List Char) :
    piecesFrom held (line ++ '\n' :: rest) = (held.reverse ++ line ++ ['\n']) :: pieces rest := by
  induction line generalizing held with
  | nil => simp [piecesFrom, pieces]
  | cons c line ih =>
    obtain ⟨first, later⟩ := List.ne_and_not_mem_of_not_mem_cons free
    have other : c ≠ '\n' := Ne.symm first
    simp only [List.cons_append, piecesFrom, other, if_false]
    rw [ih later (c :: held)]
    simp

theorem piecesFrom_last {line : List Char} (free : '\n' ∉ line) (held : List Char)
    (nonempty : held.reverse ++ line ≠ []) : piecesFrom held line = [held.reverse ++ line] := by
  induction line generalizing held with
  | nil =>
    have some : held.isEmpty = false := by simpa using nonempty
    simp [piecesFrom, some]
  | cons c line ih =>
    obtain ⟨first, later⟩ := List.ne_and_not_mem_of_not_mem_cons free
    have other : c ≠ '\n' := Ne.symm first
    simp only [piecesFrom, other, if_false]
    rw [ih later (c :: held) (by simp)]
    simp

theorem pieces_line {line : List Char} (free : '\n' ∉ line) (rest : List Char) :
    pieces (line ++ '\n' :: rest) = (line ++ ['\n']) :: pieces rest :=
  piecesFrom_line free [] rest

theorem pieces_last {line : List Char} (free : '\n' ∉ line) (nonempty : line ≠ []) :
    pieces line = [line] :=
  piecesFrom_last free [] nonempty

theorem pieces_ne_nil {text : List Char} (nonempty : text ≠ []) : pieces text ≠ [] := by
  induction text using lines_induction with
  | nil => exact absurd rfl nonempty
  | last line some free =>
    rw [pieces_last free some]
    exact List.cons_ne_nil _ _
  | line line rest free _ =>
    rw [pieces_line free]
    exact List.cons_ne_nil _ _

theorem dropEnd_concat (mark : Char) (s : List Char) : dropEnd mark (s ++ [mark]) = s := by
  simp [dropEnd]

theorem dropEnd_cases (mark : Char) (s : List Char) :
    dropEnd mark s = s ∨ s = dropEnd mark s ++ [mark] := by
  rcases List.eq_nil_or_concat s with rfl | ⟨front, c, rfl⟩
  · exact .inl rfl
  · by_cases same : c = mark
    · subst same
      simp [dropEnd]
    · simp [dropEnd, same]

theorem mem_of_mem_dropEnd {mark c : Char} {s : List Char} (member : c ∈ dropEnd mark s) :
    c ∈ s := by
  rcases dropEnd_cases mark s with same | longer
  · rwa [same] at member
  · rw [longer]
    exact List.mem_append_left _ member

theorem dropEnd_of_not_mem {mark : Char} {s : List Char} (absent : mark ∉ s) :
    dropEnd mark s = s := by
  rcases dropEnd_cases mark s with same | longer
  · exact same
  · rw [longer] at absent
    simp at absent

theorem lineOfPiece_terminated (line : List Char) :
    lineOfPiece (line ++ ['\n']) = dropEnd '\r' line := by
  rw [lineOfPiece, dropEnd_concat]

theorem lineOfPiece_last {line : List Char} (free : '\n' ∉ line) :
    lineOfPiece line = dropEnd '\r' line := by
  rw [lineOfPiece, dropEnd_of_not_mem free]

theorem lines_of_line {line : List Char} (free : '\n' ∉ line) (rest : List Char) :
    (LineIndex.ofText (line ++ '\n' :: rest)).lines =
      dropEnd '\r' line :: (LineIndex.ofText rest).lines := by
  simp only [LineIndex.ofText, pieces_line free, List.map_cons, lineOfPiece_terminated]

theorem lines_of_last {line : List Char} (free : '\n' ∉ line) (nonempty : line ≠ []) :
    (LineIndex.ofText line).lines = [dropEnd '\r' line] := by
  simp only [LineIndex.ofText, pieces_last free nonempty, List.map_cons, List.map_nil,
    lineOfPiece_last free]

theorem no_feed_of_mem_lines {text line : List Char}
    (member : line ∈ (LineIndex.ofText text).lines) : '\n' ∉ line := by
  induction text using lines_induction with
  | nil => cases member
  | last front nonempty free =>
    rw [lines_of_last free nonempty, List.mem_singleton] at member
    subst member
    exact fun feed => free (mem_of_mem_dropEnd feed)
  | line front rest free ih =>
    rw [lines_of_line free] at member
    rcases List.mem_cons.mp member with rfl | later
    · exact fun feed => free (mem_of_mem_dropEnd feed)
    · exact ih later

theorem byteLength_nil : byteLength [] = 0 := rfl

theorem byteLength_cons (c : Char) (s : List Char) :
    byteLength (c :: s) = c.utf8Size + byteLength s := rfl

theorem byteLength_append (s t : List Char) :
    byteLength (s ++ t) = byteLength s + byteLength t := by
  induction s with
  | nil => simp [byteLength_nil]
  | cons c s ih => simp only [List.cons_append, byteLength_cons, ih, Nat.add_assoc]

theorem startsFrom_shift (offset shift : Nat) (ps : List (List Char)) :
    startsFrom (offset + shift) ps = (startsFrom offset ps).map (· + shift) := by
  induction ps generalizing offset with
  | nil => rfl
  | cons piece rest ih =>
    simp only [startsFrom, List.map_cons]
    rw [← ih, Nat.add_right_comm]

theorem le_of_mem_startsFrom {offset start : Nat} {ps : List (List Char)}
    (member : start ∈ startsFrom offset ps) : offset ≤ start := by
  induction ps generalizing offset with
  | nil => cases member
  | cons piece rest ih =>
    rcases List.mem_cons.mp member with rfl | later
    · exact Nat.le_refl _
    · have bound := ih later
      omega

theorem startsFrom_sorted (offset : Nat) (ps : List (List Char)) :
    (startsFrom offset ps).Pairwise (· ≤ ·) := by
  induction ps generalizing offset with
  | nil => exact .nil
  | cons piece rest ih =>
    refine .cons ?_ (ih _)
    intro start member
    have bound := le_of_mem_startsFrom member
    omega

theorem getElem_le_iff_lt_countP {xs : List Nat} (sorted : xs.Pairwise (· ≤ ·)) (x : Nat) {i : Nat}
    (inside : i < xs.length) : xs[i] ≤ x ↔ i < xs.countP (· ≤ x) := by
  induction xs generalizing i with
  | nil => cases inside
  | cons a xs ih =>
    obtain ⟨first, later⟩ := List.pairwise_cons.mp sorted
    by_cases small : a ≤ x
    · rw [List.countP_cons_of_pos (by simpa using small)]
      cases i with
      | zero => simpa using small
      | succ i =>
        have step := ih later (Nat.lt_of_succ_lt_succ inside)
        simpa using step
    · have above : ∀ b ∈ a :: xs, ¬ b ≤ x := by
        intro b member
        rcases List.mem_cons.mp member with rfl | among
        · exact small
        · have bound := first b among
          omega
      have none : (a :: xs).countP (· ≤ x) = 0 := by
        rw [List.countP_eq_zero]
        intro b member
        simpa using above b member
      have larger := above _ (List.getElem_mem inside)
      omega

theorem countUpTo_eq {xs : Array Nat} {x count : Nat} (low high : Nat)
    (threshold : ∀ i < xs.size, xs.getD i 0 ≤ x ↔ i < count)
    (lower : low ≤ count) (upper : count ≤ high) (bound : high ≤ xs.size) :
    countUpTo xs x low high = count := by
  fun_induction countUpTo xs x low high with
  | case1 low high busy middle small ih =>
    have below := (threshold middle (by omega)).mp small
    exact ih (by omega) upper bound
  | case2 low high busy middle large ih =>
    have beyond := mt (threshold middle (by omega)).mpr large
    exact ih lower (by omega) (by omega)
  | case3 low high closed => omega

theorem lineOf_ofText (text : List Char) (offset : Nat) :
    (LineIndex.ofText text).lineOf offset =
      max 1 ((startsFrom 0 (pieces text)).countP (· ≤ offset)) := by
  have threshold : ∀ i < (LineIndex.ofText text).starts.size,
      (LineIndex.ofText text).starts.getD i 0 ≤ offset ↔
        i < (startsFrom 0 (pieces text)).countP (· ≤ offset) := by
    intro i inside
    have listed : i < (startsFrom 0 (pieces text)).length := inside
    have order := getElem_le_iff_lt_countP (startsFrom_sorted 0 (pieces text)) offset listed
    simpa [LineIndex.ofText, listed] using order
  unfold LineIndex.lineOf
  rw [countUpTo_eq 0 (LineIndex.ofText text).starts.size threshold (Nat.zero_le _)
    List.countP_le_length (Nat.le_refl _)]

theorem starts_of_line {line : List Char} (free : '\n' ∉ line) (rest : List Char) :
    startsFrom 0 (pieces (line ++ '\n' :: rest)) =
      0 :: (startsFrom 0 (pieces rest)).map (· + (byteLength line + 1)) := by
  rw [pieces_line free, startsFrom, startsFrom_shift, byteLength_append]
  rfl

theorem lineOf_first {line : List Char} (free : '\n' ∉ line) (rest : List Char) {offset : Nat}
    (within : offset ≤ byteLength line) :
    (LineIndex.ofText (line ++ '\n' :: rest)).lineOf offset = 1 := by
  have none : ((startsFrom 0 (pieces rest)).map (· + (byteLength line + 1))).countP
      (· ≤ offset) = 0 := by
    rw [List.countP_map, List.countP_eq_zero]
    intro start _
    simp only [Function.comp_apply, decide_eq_true_eq]
    omega
  rw [lineOf_ofText, starts_of_line free, List.countP_cons_of_pos (by simp), none]
  rfl

theorem lineOf_later {line : List Char} (free : '\n' ∉ line) {rest : List Char}
    (nonempty : rest ≠ []) (offset : Nat) :
    (LineIndex.ofText (line ++ '\n' :: rest)).lineOf (offset + (byteLength line + 1)) =
      (LineIndex.ofText rest).lineOf offset + 1 := by
  have shifted : ((startsFrom 0 (pieces rest)).map (· + (byteLength line + 1))).countP
      (· ≤ offset + (byteLength line + 1)) = (startsFrom 0 (pieces rest)).countP (· ≤ offset) := by
    rw [List.countP_map]
    apply List.countP_congr
    intro start _
    simp
  have positive : 0 < (startsFrom 0 (pieces rest)).countP (· ≤ offset) := by
    obtain ⟨piece, later, split⟩ := List.exists_cons_of_ne_nil (pieces_ne_nil nonempty)
    rw [split, startsFrom, List.countP_cons_of_pos (by simp)]
    exact Nat.succ_pos _
  rw [lineOf_ofText, lineOf_ofText, starts_of_line free, List.countP_cons_of_pos (by simp), shifted]
  omega

theorem lineOf_last {line : List Char} (free : '\n' ∉ line) (offset : Nat) :
    (LineIndex.ofText line).lineOf offset = 1 := by
  by_cases empty : line = []
  · subst empty
    rw [lineOf_ofText]
    rfl
  · rw [lineOf_ofText, pieces_last free empty, startsFrom, List.countP_cons_of_pos (by simp)]
    rfl

theorem lineOf_front {line : List Char} (free : '\n' ∉ line) (rest : List Char) :
    (LineIndex.ofText (line ++ rest)).lineOf (byteLength line) = 1 := by
  induction rest using lines_induction with
  | nil => rw [List.append_nil, lineOf_last free]
  | last tail _ clean => exact lineOf_last (by simp [free, clean]) _
  | line tail rest clean _ =>
    have within : byteLength line ≤ byteLength (line ++ tail) := by
      rw [byteLength_append]
      omega
    rw [← List.append_assoc]
    exact lineOf_first (by simp [free, clean]) rest within

theorem lineOf_byteLength (front : List Char) {rest : List Char} (filled : rest ≠ []) :
    (LineIndex.ofText (front ++ rest)).lineOf (byteLength front) = front.count '\n' + 1 := by
  induction front using lines_induction with
  | nil => exact lineOf_front (by simp) rest
  | last line _ free => rw [lineOf_front free, List.count_eq_zero.mpr free]
  | line line front free ih =>
    have offset : byteLength (line ++ '\n' :: front) = byteLength front + (byteLength line + 1) := by
      have width : '\n'.utf8Size = 1 := by decide
      rw [byteLength_append, byteLength_cons, width]
      omega
    rw [List.append_assoc, List.cons_append, offset,
      lineOf_later free (List.append_ne_nil_of_right_ne_nil front filled), ih, List.count_append,
      List.count_eq_zero.mpr free, List.count_cons_self]
    omega

end Outline.Text
