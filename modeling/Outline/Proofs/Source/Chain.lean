import Mathlib.Data.List.DropRight
import Mathlib.Data.List.TakeDrop
import Outline.Proofs.Source.Call
import Outline.Proofs.Source.Grammar

namespace Outline.Source

open Outline.Text

def dotted (names : List (List Char)) : List Char := ['.'].intercalate names

/-- The identifiers of the chain that ends a text, read backwards: its last word, and what stands
before a dot in front of that. -/
def chainNames (s : List Char) : List (List Char) :=
  if isName (s.rtakeWhile isWord) then
    if (s.rdropWhile isWord).getLast? = some '.' then
      chainNames (s.rdropWhile isWord).dropLast ++ [s.rtakeWhile isWord]
    else [s.rtakeWhile isWord]
  else []
termination_by s.length
decreasing_by
  rename_i dot
  have shorter := (List.rdropWhile_prefix isWord s).length_le
  have filled : (s.rdropWhile isWord) ≠ [] := by
    intro empty
    rw [empty] at dot
    cases dot
  have positive := List.length_pos_iff.mpr filled
  rw [List.length_dropLast]
  omega

/-- Whether the character at a position opens a call: a parenthesis directly behind a word that is
an identifier. -/
def opensCall (body : List Char) (i : Nat) : Bool :=
  body[i]? == some '(' && isName ((body.take i).rtakeWhile isWord)

def callParens (body : List Char) : List Nat := (List.range body.length).filter (opensCall body)

theorem dotted_cons (name : List Char) (names : List (List Char)) :
    dotted (name :: names) = name ++ names.flatMap ('.' :: ·) := by
  induction names generalizing name with
  | nil => simp [dotted]
  | cons next names ih =>
    rw [dotted, List.intercalate_cons_cons, List.flatMap_cons, List.cons_append, ← ih next, dotted]
    simp

theorem dotted_append {left right : List (List Char)} (begun : left ≠ []) (filled : right ≠ []) :
    dotted (left ++ right) = dotted left ++ '.' :: dotted right := by
  obtain ⟨first, others, rfl⟩ := List.exists_cons_of_ne_nil begun
  obtain ⟨next, more, rfl⟩ := List.exists_cons_of_ne_nil filled
  rw [List.cons_append, dotted_cons, dotted_cons, dotted_cons]
  simp

theorem dotted_singleton (name : List Char) : dotted [name] = name := by simp [dotted]

theorem all_isWord_of_isName {name : List Char} (named : isName name = true) :
    name.all isWord = true := by
  cases name with
  | nil => rfl
  | cons c name =>
    obtain ⟨first, later⟩ := Bool.and_eq_true_iff.mp named
    rw [List.all_cons, isWord_of_startsName first, later]
    rfl

theorem dot_not_isWord : isWord '.' = false := by decide

theorem paren_not_isWord : isWord '(' = false := by decide

theorem not_mem_of_isName {name : List Char} (named : isName name = true) {c : Char}
    (noWord : isWord c = false) : c ∉ name := by
  intro member
  have word := List.all_eq_true.mp (all_isWord_of_isName named) c member
  rw [noWord] at word
  cases word

theorem paren_not_mem_dotted {names : List (List Char)}
    (named : ∀ name ∈ names, isName name = true) : '(' ∉ dotted names := by
  cases names with
  | nil => simp [dotted]
  | cons name names =>
    rw [dotted_cons, List.mem_append, not_or]
    refine ⟨not_mem_of_isName (named name (by simp)) paren_not_isWord, ?_⟩
    rw [List.mem_flatMap]
    rintro ⟨other, member, inside⟩
    rcases List.mem_cons.mp inside with same | inside
    · cases same
    · exact not_mem_of_isName (named other (by simp [member])) paren_not_isWord inside

theorem dotted_starts {names : List (List Char)} (named : ∀ name ∈ names, isName name = true)
    (filled : names ≠ []) : ∃ c rest, dotted names = c :: rest ∧ startsName c = true := by
  obtain ⟨first, others, rfl⟩ := List.exists_cons_of_ne_nil filled
  have here := named first (by simp)
  cases first with
  | nil => cases here
  | cons c first =>
    refine ⟨c, _, dotted_cons _ _, ?_⟩
    exact (Bool.and_eq_true_iff.mp here).1

section Backwards

variable {front run : List Char}

theorem rdropWhile_run {p : Char → Bool} (inside : run.all p = true)
    (stops : ∀ c, front.getLast? = some c → p c = false) : (front ++ run).rdropWhile p = front := by
  have reversed : run.reverse.all p = true := by rw [List.all_reverse, inside]
  have ends : ∀ c, front.reverse.head? = some c → p c = false := by
    intro c found
    rw [List.head?_reverse] at found
    exact stops c found
  rw [List.rdropWhile, List.reverse_append, dropWhile_run reversed ends, List.reverse_reverse]

theorem rtakeWhile_run {p : Char → Bool} (inside : run.all p = true)
    (stops : ∀ c, front.getLast? = some c → p c = false) : (front ++ run).rtakeWhile p = run := by
  have parts := List.rdropWhile_append_rtakeWhile (p := p) (l := front ++ run)
  rw [rdropWhile_run inside stops] at parts
  exact List.append_cancel_left parts

theorem rdropWhile_stops (p : Char → Bool) (s : List Char) :
    ∀ c, (s.rdropWhile p).getLast? = some c → p c = false := by
  intro c last
  rw [List.rdropWhile, List.getLast?_reverse] at last
  have stopped := List.head?_dropWhile_not p s.reverse
  rw [last] at stopped
  exact stopped

theorem chainNames_eq_nil_iff {s : List Char} :
    chainNames s = [] ↔ isName (s.rtakeWhile isWord) = false := by
  rw [chainNames]
  split
  · rename_i named
    split <;> simp [named]
  · rename_i unnamed
    simpa using unnamed

theorem chainNames_of_dot (front : List Char) (named : isName run = true) :
    chainNames (front ++ '.' :: run) = chainNames front ++ [run] := by
  have stops : ∀ c, (front ++ ['.']).getLast? = some c → isWord c = false := by
    intro c last
    rw [List.getLast?_concat] at last
    cases last
    exact dot_not_isWord
  have inside := all_isWord_of_isName named
  have parts : front ++ '.' :: run = front ++ ['.'] ++ run := by simp
  rw [chainNames, parts, rtakeWhile_run inside stops, rdropWhile_run inside stops, if_pos named,
    if_pos List.getLast?_concat, List.dropLast_concat]

theorem chainNames_of_word (named : isName run = true)
    (stops : ∀ c, front.getLast? = some c → isWord c = false) :
    ∃ more, chainNames (front ++ run) = more ++ [run] := by
  have inside := all_isWord_of_isName named
  rw [chainNames, rtakeWhile_run inside stops, rdropWhile_run inside stops, if_pos named]
  split
  · exact ⟨_, rfl⟩
  · exact ⟨[], rfl⟩

theorem isName_of_mem_chainNames {s name : List Char} (member : name ∈ chainNames s) :
    isName name = true := by
  fun_induction chainNames s with
  | case1 s named dot ih =>
    rcases List.mem_append.mp member with member | member
    · exact ih member
    · rwa [List.mem_singleton.mp member]
  | case2 s named noDot => rwa [List.mem_singleton.mp member]
  | case3 s unnamed => cases member

theorem chainNames_split (s : List Char) :
    ∃ front, s = front ++ dotted (chainNames s) ∧
      (chainNames s ≠ [] → ∀ c, front.getLast? = some c → isWord c = false) := by
  fun_induction chainNames s with
  | case1 s named dot ih =>
    obtain ⟨front, whole, stops⟩ := ih
    obtain ⟨init, ends⟩ := List.getLast?_eq_some_iff.mp dot
    have parts := List.rdropWhile_append_rtakeWhile (p := isWord) (l := s)
    rw [ends, List.dropLast_concat] at whole stops ⊢
    rw [ends] at parts
    by_cases alone : chainNames init = []
    · refine ⟨init ++ ['.'], ?_, ?_⟩
      · rw [alone, List.nil_append, dotted_singleton, parts]
      · intro _ c last
        rw [List.getLast?_concat] at last
        cases last
        exact dot_not_isWord
    · refine ⟨front, ?_, fun _ => stops alone⟩
      rw [dotted_append alone (by simp), dotted_singleton, ← List.append_assoc, ← whole]
      simpa using parts.symm
  | case2 s named noDot =>
    refine ⟨s.rdropWhile isWord, ?_, fun _ => rdropWhile_stops isWord s⟩
    rw [dotted_singleton, List.rdropWhile_append_rtakeWhile]
  | case3 s unnamed => exact ⟨s, by simp [dotted], fun filled => absurd rfl filled⟩

theorem length_dotted_chainNames_le (s : List Char) :
    (dotted (chainNames s)).length ≤ s.length := by
  obtain ⟨front, whole, -⟩ := chainNames_split s
  have lengths := congrArg List.length whole
  rw [List.length_append] at lengths
  omega

theorem chainNames_of_dotted {names : List (List Char)}
    (named : ∀ name ∈ names, isName name = true) (filled : names ≠ [])
    (stops : ∀ c, front.getLast? = some c → isWord c = false) :
    ∃ more, chainNames (front ++ dotted names) = more ++ names := by
  induction names using List.reverseRecOn with
  | nil => exact absurd rfl filled
  | append_singleton names name ih =>
    have last : isName name = true := named name (by simp)
    by_cases alone : names = []
    · subst alone
      rw [List.nil_append, dotted_singleton]
      exact chainNames_of_word last stops
    · obtain ⟨more, same⟩ := ih (fun n member => named n (by simp [member])) alone
      refine ⟨more, ?_⟩
      rw [dotted_append alone (by simp), dotted_singleton, ← List.append_assoc,
        chainNames_of_dot _ last, same, List.append_assoc]

theorem getLast?_cut {p : Char → Bool} {c : Char} (stop : p c = false) (front : List Char)
    (stops : ∀ d, run.getLast? = some d → p d = false) :
    ∀ d, (front ++ c :: run).getLast? = some d → p d = false := by
  intro d last
  rcases List.eq_nil_or_concat' run with rfl | ⟨init, e, rfl⟩
  · rw [List.getLast?_concat] at last
    cases last
    exact stop
  · have ends : front ++ c :: (init ++ [e]) = front ++ c :: init ++ [e] := by simp
    rw [ends, List.getLast?_concat] at last
    exact stops d (by rw [List.getLast?_concat, last])

theorem chainNames_cut {c : Char} (noWord : isWord c = false) (noDot : c ≠ '.')
    (front s : List Char) : chainNames (front ++ c :: s) = chainNames s := by
  have inside (s : List Char) : (s.rtakeWhile isWord).all isWord = true := by
    rw [List.rtakeWhile, List.all_reverse, List.all_takeWhile]
  have parts (s : List Char) :
      front ++ c :: s = front ++ c :: s.rdropWhile isWord ++ s.rtakeWhile isWord := by
    rw [List.append_assoc, List.cons_append, List.rdropWhile_append_rtakeWhile]
  have stops (s : List Char) : ∀ d, (front ++ c :: s.rdropWhile isWord).getLast? = some d →
      isWord d = false := getLast?_cut noWord front (rdropWhile_stops isWord s)
  fun_induction chainNames s with
  | case1 s named dot ih =>
    obtain ⟨init, ends⟩ := List.getLast?_eq_some_iff.mp dot
    rw [ends, List.dropLast_concat] at ih ⊢
    have whole : front ++ c :: s = front ++ c :: init ++ '.' :: s.rtakeWhile isWord := by
      rw [parts, ends]
      simp
    rw [whole, chainNames_of_dot _ named, ih]
  | case2 s named solid =>
    have apart : ∀ d, (s.rdropWhile isWord).getLast? = some d → (d == '.') = false := by
      intro d last
      rw [beq_eq_false_iff_ne]
      rintro rfl
      exact solid last
    have other : (front ++ c :: s.rdropWhile isWord).getLast? ≠ some '.' := by
      intro last
      have ends := getLast?_cut (p := (· == '.')) (by simpa using noDot) front apart '.' last
      cases ends
    rw [chainNames, parts, rtakeWhile_run (inside s) (stops s), rdropWhile_run (inside s) (stops s),
      if_pos named, if_neg other]
  | case3 s unnamed =>
    rw [chainNames_eq_nil_iff, parts, rtakeWhile_run (inside s) (stops s)]
    simpa using unnamed

end Backwards

theorem chain_word {c : Char} (word : isWord c = true) (s : List Char) :
    chain (c :: s) = (c :: (chain s).1, (chain s).2) := by
  cases s <;> simp [chain, word]

theorem chain_dot {d : Char} (starts : startsName d = true) (s : List Char) :
    chain ('.' :: d :: s) = ('.' :: (chain (d :: s)).1, (chain (d :: s)).2) := by
  rw [chain, if_pos (by simp [starts])]

theorem chain_paren (s : List Char) : chain ('(' :: s) = ([], '(' :: s) := by
  cases s <;> simp [chain, paren_not_isWord]

theorem chain_run {run : List Char} (words : run.all isWord = true) (s : List Char) :
    chain (run ++ s) = (run ++ (chain s).1, (chain s).2) := by
  induction run with
  | nil => rfl
  | cons c run ih =>
    obtain ⟨first, later⟩ := Bool.and_eq_true_iff.mp words
    rw [List.cons_append, chain_word first, ih later]
    rfl

theorem chain_dotted {names : List (List Char)} (named : ∀ name ∈ names, isName name = true)
    (s : List Char) : chain (dotted names ++ '(' :: s) = (dotted names, '(' :: s) := by
  induction names with
  | nil => exact chain_paren s
  | cons name names ih =>
    have words := all_isWord_of_isName (named name (by simp))
    have later := ih fun n member => named n (by simp [member])
    by_cases alone : names = []
    · subst alone
      rw [dotted_singleton, chain_run words, chain_paren, List.append_nil]
    · obtain ⟨c, rest, starts, first⟩ := dotted_starts
        (fun n member => named n (by simp [member])) alone
      have parts := dotted_append (List.cons_ne_nil name []) alone
      rw [List.singleton_append, dotted_singleton] at parts
      rw [starts] at later parts
      rw [parts, List.append_assoc, chain_run words, List.cons_append, List.cons_append,
        chain_dot first, ← List.cons_append, later]

theorem isName_of_chain {c : Char} {s word : List Char} {names : List (List Char)}
    (starts : startsName c = true) (words : word.all isWord = true)
    (split : (chain (c :: s)).1 = word ++ names.flatMap ('.' :: ·)) : isName word = true := by
  rw [chain_word (isWord_of_startsName starts)] at split
  generalize (chain s).1 = rest at split
  cases word with
  | nil =>
    cases names with
    | nil => cases split
    | cons name names =>
      cases split
      cases starts
  | cons d word =>
    cases split
    obtain ⟨-, later⟩ := Bool.and_eq_true_iff.mp words
    rw [isName, starts, later]
    rfl

theorem chain_eq_words (s : List Char) :
    ∃ (word : List Char) (names : List (List Char)), word.all isWord = true ∧
      (∀ name ∈ names, isName name = true) ∧ (chain s).1 = word ++ names.flatMap ('.' :: ·) := by
  fun_induction chain s with
  | case1 => exact ⟨[], [], rfl, by simp, rfl⟩
  | case2 c word => exact ⟨[c], [], by simp [word], by simp, rfl⟩
  | case3 c noWord => exact ⟨[], [], rfl, by simp, rfl⟩
  | case4 c d rest inside run behind same ih =>
    obtain ⟨word, names, words, named, split⟩ := ih
    by_cases wordly : isWord c = true
    · rw [same] at split
      exact ⟨c :: word, names, by simp [wordly, words], named, by simpa using split⟩
    · -- Behind a dot stands a letter, so the next word is an identifier.
      obtain ⟨rfl, starts⟩ : c = '.' ∧ startsName d = true := by simpa [wordly] using inside
      have identifier := isName_of_chain starts words split
      rw [same] at split
      exact ⟨[], word :: names, rfl, List.forall_mem_cons.mpr ⟨identifier, named⟩,
        by simpa using split⟩
  | case5 c d rest outside => exact ⟨[], [], rfl, by simp, rfl⟩

theorem chain_eq_dotted {c : Char} (starts : startsName c = true) (s : List Char) :
    ∃ names, names ≠ [] ∧ (∀ name ∈ names, isName name = true) ∧
      (chain (c :: s)).1 = dotted names := by
  obtain ⟨word, names, words, named, split⟩ := chain_eq_words (c :: s)
  have identifier := isName_of_chain starts words split
  exact ⟨word :: names, by simp, List.forall_mem_cons.mpr ⟨identifier, named⟩,
    by rw [split, dotted_cons]⟩

def atBoundary (before : List Char) : Bool := !before.getLast?.any isWord

theorem atBoundary_concat (before : List Char) (c : Char) :
    atBoundary (before ++ [c]) = !isWord c := by
  rw [atBoundary, List.getLast?_concat]
  rfl

theorem atBoundary_iff {before : List Char} :
    atBoundary before = true ↔ ∀ c, before.getLast? = some c → isWord c = false := by
  unfold atBoundary
  cases before.getLast? <;> simp

theorem chainsFrom_skip (skipped : List Char) (c : Char) (boundary : Bool) (offset : Nat)
    (rest : List Char) :
    chainsFrom (skipped.length + 1) boundary offset (skipped ++ c :: rest) =
      chainsFrom 0 (!isWord c) (offset + byteLength skipped + c.utf8Size) rest := by
  induction skipped generalizing boundary offset with
  | nil => rfl
  | cons d skipped ih =>
    rw [List.cons_append, List.length_cons, chainsFrom, ih, byteLength_cons, Nat.add_assoc offset]

/-- No chain of a parenthesis in the rest begins before it. -/
def Fresh (before rest : List Char) : Prop :=
  ∀ inside behind, rest = inside ++ '(' :: behind →
    (dotted (chainNames (before ++ inside))).length ≤ inside.length

theorem fresh_nil (rest : List Char) : Fresh [] rest := by
  intro inside behind _
  exact length_dotted_chainNames_le inside

theorem fresh_paren (before rest : List Char) : Fresh (before ++ ['(']) rest := by
  intro inside behind _
  have parts : before ++ ['('] ++ inside = before ++ '(' :: inside := by simp
  rw [parts, chainNames_cut paren_not_isWord (by decide)]
  exact length_dotted_chainNames_le inside

theorem Fresh.next {before rest : List Char} {c : Char} (fresh : Fresh before (c :: rest))
    (missed : (if atBoundary before && startsName c then call? (c :: rest) else none) = none) :
    Fresh (before ++ [c]) rest := by
  intro inside behind split
  have parts : before ++ [c] ++ inside = before ++ c :: inside := by simp
  have bound := fresh (c :: inside) behind (by rw [split]; rfl)
  rw [parts]
  by_contra longer
  -- The chain is the whole text from `c` on, so a call was there to be found.
  have named : ∀ name ∈ chainNames (before ++ c :: inside), isName name = true :=
    fun name member => isName_of_mem_chainNames member
  obtain ⟨front, whole, stops⟩ := chainNames_split (before ++ c :: inside)
  have filled : chainNames (before ++ c :: inside) ≠ [] := by
    intro empty
    rw [empty] at longer
    exact longer (Nat.zero_le _)
  rw [List.length_cons] at bound
  obtain ⟨rfl, chained⟩ := List.append_inj' whole (by rw [List.length_cons]; omega)
  obtain ⟨d, others, starts, first⟩ := dotted_starts named filled
  rw [← chained] at starts
  cases starts
  have found : call? (c :: rest) = some (c :: inside) := by
    have read := chain_dotted named behind
    rw [← chained] at read
    rw [split, ← List.cons_append]
    exact call?_eq_some_iff.mpr ⟨behind, read⟩
  rw [if_pos (by rw [atBoundary_iff.mpr (stops filled), first]; rfl), found] at missed
  cases missed

theorem Fresh.chainNames_eq {before behind : List Char} {names : List (List Char)}
    (fresh : Fresh before (dotted names ++ '(' :: behind))
    (named : ∀ name ∈ names, isName name = true) (filled : names ≠ [])
    (boundary : atBoundary before = true) : chainNames (before ++ dotted names) = names := by
  have bound := fresh (dotted names) behind rfl
  obtain ⟨more, same⟩ := chainNames_of_dotted named filled (atBoundary_iff.mp boundary)
  rw [same] at bound ⊢
  by_cases none : more = []
  · rw [none, List.nil_append]
  · rw [dotted_append none filled, List.length_append, List.length_cons] at bound
    omega

def callAt (body : List Char) (i : Nat) : Nat × List Char :=
  let run := dotted (chainNames (body.take i))
  (byteLength (body.take (i - run.length)), run)

theorem opensCall_append {before rest : List Char} {c : Char} :
    opensCall (before ++ c :: rest) before.length = true ↔ c = '(' ∧ chainNames before ≠ [] := by
  have here : (before ++ c :: rest)[before.length]? = some c := by simp
  rw [opensCall, here, List.take_left, Bool.and_eq_true, Ne, chainNames_eq_nil_iff]
  simp

theorem opensCall_before_paren {before run : List Char} (free : '(' ∉ run) (rest : List Char) :
    (List.range' before.length run.length).filter (opensCall (before ++ (run ++ rest))) = [] := by
  rw [List.filter_eq_nil_iff]
  intro i member
  obtain ⟨low, high⟩ := List.mem_range'_1.mp member
  have inside : i - before.length < run.length := by omega
  have here : (before ++ (run ++ rest))[i]? = some run[i - before.length] := by
    rw [List.getElem?_append_right low, List.getElem?_append_left inside,
      List.getElem?_eq_getElem inside]
  have other : run[i - before.length] ≠ '(' := by
    intro same
    exact free (same ▸ List.getElem_mem inside)
  simp [opensCall, here, other]

theorem Fresh.not_opensCall {before rest : List Char} {c : Char} (fresh : Fresh before (c :: rest)) :
    opensCall (before ++ c :: rest) before.length = false := by
  rw [Bool.eq_false_iff, Ne, opensCall_append]
  rintro ⟨rfl, filled⟩
  have bound := fresh [] rest rfl
  obtain ⟨d, others, starts, -⟩ := dotted_starts
    (fun name member => isName_of_mem_chainNames member) filled
  rw [List.append_nil, starts] at bound
  cases bound

theorem callAt_paren {before : List Char} {names : List (List Char)}
    (same : chainNames (before ++ dotted names) = names) (rest : List Char) :
    callAt (before ++ (dotted names ++ rest)) (before.length + (dotted names).length) =
      (byteLength before, dotted names) := by
  have taken : (before ++ (dotted names ++ rest)).take (before.length + (dotted names).length) =
      before ++ dotted names := by
    rw [← List.append_assoc, ← List.length_append, List.take_left]
  rw [callAt, taken, same, Nat.add_sub_cancel, List.take_left]

theorem callParens_call {before behind : List Char} {names : List (List Char)}
    (named : ∀ name ∈ names, isName name = true) (filled : names ≠ [])
    (same : chainNames (before ++ dotted names) = names) :
    ((List.range' before.length (dotted names ++ '(' :: behind).length).filter
        (opensCall (before ++ (dotted names ++ '(' :: behind)))).map
        (callAt (before ++ (dotted names ++ '(' :: behind))) =
      (byteLength before, dotted names) ::
        ((List.range' (before ++ dotted names ++ ['(']).length behind.length).filter
          (opensCall (before ++ (dotted names ++ '(' :: behind)))).map
          (callAt (before ++ (dotted names ++ '(' :: behind))) := by
  have positions : List.range' before.length (dotted names ++ '(' :: behind).length =
      List.range' before.length (dotted names).length ++
        (before.length + (dotted names).length) ::
          List.range' (before ++ dotted names ++ ['(']).length behind.length := by
    rw [List.length_append, List.length_cons, ← List.range'_append_1, List.range'_succ]
    simp [Nat.add_assoc]
  have opens : opensCall (before ++ (dotted names ++ '(' :: behind))
      (before.length + (dotted names).length) = true := by
    rw [← List.append_assoc, ← List.length_append, opensCall_append, same]
    exact ⟨rfl, filled⟩
  rw [positions, List.filter_append, opensCall_before_paren (paren_not_mem_dotted named),
    List.nil_append, List.filter_cons_of_pos opens, List.map_cons, callAt_paren same]

theorem call?_split {c : Char} {rest run : List Char} (starts : startsName c = true)
    (called : call? (c :: rest) = some run) :
    ∃ names behind, names ≠ [] ∧ (∀ name ∈ names, isName name = true) ∧
      c :: rest = dotted names ++ '(' :: behind := by
  obtain ⟨behind, read⟩ := call?_eq_some_iff.mp called
  obtain ⟨names, filled, named, chained⟩ := chain_eq_dotted starts rest
  have split := chain_join (c :: rest)
  rw [chained, read] at split
  exact ⟨names, behind, filled, named, split.symm⟩

theorem chainsFrom_call {before behind : List Char} {names : List (List Char)}
    (named : ∀ name ∈ names, isName name = true) (filled : names ≠ [])
    (boundary : atBoundary before = true) :
    chainsFrom 0 (atBoundary before) (byteLength before) (dotted names ++ '(' :: behind) =
      (byteLength before, dotted names) :: chainsFrom 0 (atBoundary (before ++ dotted names ++ ['(']))
        (byteLength (before ++ dotted names ++ ['('])) behind := by
  have called : call? (dotted names ++ '(' :: behind) = some (dotted names) :=
    call?_eq_some_iff.mpr ⟨behind, chain_dotted named behind⟩
  obtain ⟨c, tail, first, starts⟩ := dotted_starts named filled
  rw [first, List.cons_append] at called ⊢
  rw [chainsFrom, boundary, starts]
  simp only [Bool.and_self, if_true, called]
  rw [List.length_cons, chainsFrom_skip, atBoundary_concat, byteLength_append, byteLength_append,
    byteLength_cons, Nat.add_assoc (byteLength before)]
  rfl

/-- From any point that no call reaches over, the search finds the calls of the parentheses that
follow, in their order. -/
theorem chainsFrom_eq_callParens {body before rest : List Char} (whole : body = before ++ rest)
    (fresh : Fresh before rest) :
    chainsFrom 0 (atBoundary before) (byteLength before) rest =
      ((List.range' before.length rest.length).filter (opensCall body)).map (callAt body) := by
  -- The search starts anew behind a call, so the induction is on the length of what is left;
  -- no call that is left began before.
  induction size : rest.length using Nat.strong_induction_on generalizing before rest with
  | _ n ih =>
    subst size
    cases rest with
    | nil => rfl
    | cons c rest =>
      cases found : (if atBoundary before && startsName c then call? (c :: rest) else none) with
      | none =>
        have later := ih rest.length (Nat.lt_succ_self _) (by rw [whole]; simp)
          (fresh.next found) rfl
        have silent : opensCall body before.length = false := by rw [whole, fresh.not_opensCall]
        rw [atBoundary_concat, byteLength_append, List.length_append] at later
        rw [List.length_cons, List.range'_succ, List.filter_cons_of_neg (by simp [silent]),
          chainsFrom]
        simp only [found]
        exact later
      | some run =>
        obtain ⟨⟨boundary, starts⟩, called⟩ :
            (atBoundary before = true ∧ startsName c = true) ∧ call? (c :: rest) = some run := by
          simpa using found
        obtain ⟨names, behind, filled, named, split⟩ := call?_split starts called
        rw [split] at fresh whole ih ⊢
        subst whole
        have later := ih behind.length (by simp; omega) (by simp)
          (fresh_paren (before ++ dotted names) behind) rfl
        have same := fresh.chainNames_eq named filled boundary
        rw [chainsFrom_call named filled boundary, callParens_call named filled same, later]

theorem chains_eq_callParens (body : List Char) :
    chains body = (callParens body).map (callAt body) := by
  have found := chainsFrom_eq_callParens (List.nil_append body).symm (fresh_nil body)
  rw [List.length_nil, ← List.range_eq_range'] at found
  exact found

theorem cutLast?_of_not_mem {mark : Char} {s : List Char} (absent : mark ∉ s) :
    cutLast? mark s = none := by
  have kept : s.reverse.dropWhile (· != mark) = [] := by
    rw [List.dropWhile_eq_nil_iff]
    intro c member
    simpa using ne_of_mem_of_not_mem (List.mem_reverse.mp member) absent
  rw [cutLast?, List.span_eq_takeWhile_dropWhile, kept]

theorem cutLast?_append {mark : Char} {behind : List Char} (absent : mark ∉ behind)
    (before : List Char) : cutLast? mark (before ++ mark :: behind) = some (before, behind) := by
  have inside : behind.reverse.all (· != mark) = true := by
    rw [List.all_eq_true]
    intro c member
    simpa using ne_of_mem_of_not_mem (List.mem_reverse.mp member) absent
  have stops : ∀ c, (mark :: before.reverse).head? = some c → (c != mark) = false := by
    intro c found
    cases found
    simp
  have parts : (before ++ mark :: behind).reverse = behind.reverse ++ mark :: before.reverse := by
    simp
  rw [cutLast?, parts, List.span_eq_takeWhile_dropWhile, takeWhile_run inside stops,
    dropWhile_run inside stops]
  simp

theorem splitChain_dotted (ownType : List Char) {names : List (List Char)}
    (named : ∀ name ∈ names, isName name = true) (filled : names ≠ []) :
    splitChain ownType (dotted names) =
      (if names.dropLast = [] then ownType else dotted names.dropLast, names.getLastD []) := by
  obtain ⟨front, last, rfl⟩ := (List.eq_nil_or_concat' names).resolve_left filled
  have absent : '.' ∉ last := not_mem_of_isName (named last (by simp)) dot_not_isWord
  rw [List.dropLast_concat, List.getLastD_concat, splitChain]
  by_cases alone : front = []
  · subst alone
    rw [List.nil_append, dotted_singleton, cutLast?_of_not_mem absent, if_pos rfl]
  · rw [dotted_append alone (by simp), dotted_singleton, cutLast?_append absent, if_neg alone]

def Caller.siteAt (caller : Caller) (body : List Char) (i : Nat) : CallSite :=
  let names := chainNames (body.take i)
  { filePath := caller.filePath
    callerType := caller.typeName
    callerMember := caller.member
    calledType :=
      if names.dropLast = [] then caller.typeName else String.ofList (dotted names.dropLast)
    calledMember := String.ofList (names.getLastD [])
    line := caller.firstLine + (body.take (i - (dotted names).length)).count '\n' }

theorem chainNames_ne_nil {body : List Char} {i : Nat} (opens : i ∈ callParens body) :
    chainNames (body.take i) ≠ [] := by
  have named := (Bool.and_eq_true_iff.mp (List.mem_filter.mp opens).2).2
  rw [Ne, chainNames_eq_nil_iff, named]
  exact Bool.noConfusion

theorem of_mem_chains {body : List Char} {call : Nat × List Char} (member : call ∈ chains body) :
    ∃ names, names ≠ [] ∧ (∀ name ∈ names, isName name = true) ∧ call.2 = dotted names := by
  rw [chains_eq_callParens] at member
  obtain ⟨i, opens, rfl⟩ := List.mem_map.mp member
  exact ⟨chainNames (body.take i), chainNames_ne_nil opens,
    fun _ inside => isName_of_mem_chainNames inside, rfl⟩

theorem dot_not_mem_calledMember {body : List Char} {caller : Caller} {c : CallSite}
    (member : c ∈ callSites body caller) : '.' ∉ c.calledMember.toList := by
  rw [callSites_eq] at member
  obtain ⟨call, inside, rfl⟩ := List.mem_map.mp member
  obtain ⟨names, filled, named, chained⟩ := of_mem_chains inside
  obtain ⟨front, last, rfl⟩ := (List.eq_nil_or_concat' names).resolve_left filled
  have single : '.' ∉ last := not_mem_of_isName (named last (by simp)) dot_not_isWord
  rw [Caller.site, chained, splitChain_dotted _ named filled, String.toList_ofList,
    List.getLastD_concat]
  exact single

theorem site_callAt (caller : Caller) {body : List Char} {i : Nat} (opens : i ∈ callParens body) :
    caller.site (caller.firstLine + (LineIndex.ofText body).lineOf (callAt body i).1 - 1)
      (callAt body i).2 = caller.siteAt body i := by
  have within : i < body.length := List.mem_range.mp (List.mem_filter.mp opens).1
  have filled := chainNames_ne_nil opens
  have named : ∀ name ∈ chainNames (body.take i), isName name = true :=
    fun name member => isName_of_mem_chainNames member
  have behind : body.drop (i - (dotted (chainNames (body.take i))).length) ≠ [] := by
    rw [Ne, List.drop_eq_nil_iff]
    omega
  have line := lineOf_byteLength (body.take (i - (dotted (chainNames (body.take i))).length)) behind
  rw [List.take_append_drop] at line
  simp only [Caller.site, callAt, line, splitChain_dotted _ named filled, Caller.siteAt]
  congr 1
  split
  · exact String.ofList_toList
  · rfl

/-- The calls in a body are those of its parentheses behind an identifier, each one once and in
their order, with the chain that ends there and the line on which that begins. -/
theorem callSites_at_parens (body : List Char) (caller : Caller) :
    callSites body caller = (callParens body).map (caller.siteAt body) := by
  rw [callSites_eq, chains_eq_callParens, List.map_map]
  apply List.map_congr_left
  intro i opens
  exact site_callAt caller opens

end Outline.Source
