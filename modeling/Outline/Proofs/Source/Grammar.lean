import Mathlib.Data.List.TakeWhile
import Outline.Proofs.Source.Padding

namespace Outline.Source

open Outline.Text

def isName : List Char → Bool
  | [] => false
  | c :: rest => startsName c && rest.all isWord

def isGap (s : List Char) : Bool := !s.isEmpty && allBlank s

section Runs

variable {p : Char → Bool} {run rest : List Char}

theorem takeWhile_run (inside : run.all p = true)
    (stops : ∀ c, rest.head? = some c → p c = false) : (run ++ rest).takeWhile p = run := by
  have none : rest.takeWhile p = [] := by
    cases rest with
    | nil => rfl
    | cons c rest => simp [stops c rfl]
  rw [List.takeWhile_append_of_pos (List.all_eq_true.mp inside), none, List.append_nil]

theorem dropWhile_run (inside : run.all p = true)
    (stops : ∀ c, rest.head? = some c → p c = false) : (run ++ rest).dropWhile p = rest := by
  have parts := List.takeWhile_append_dropWhile (p := p) (l := run ++ rest)
  rw [takeWhile_run inside stops] at parts
  exact List.append_cancel_left parts

end Runs

theorem trimStart_spaced {space rest : List Char} (blank : allBlank space = true)
    (solid : ∀ c, rest.head? = some c → isBlank c = false) : trimStart (space ++ rest) = rest :=
  dropWhile_run blank solid

theorem allBlank_takeWhile (s : List Char) : allBlank (s.takeWhile isBlank) = true :=
  List.all_takeWhile

theorem takeWhile_trimStart (s : List Char) : s.takeWhile isBlank ++ trimStart s = s :=
  List.takeWhile_append_dropWhile

theorem afterBlanks?_gap {gap rest : List Char} (blank : isGap gap = true)
    (solid : ∀ c, rest.head? = some c → isBlank c = false) :
    afterBlanks? (gap ++ rest) = some rest := by
  cases gap with
  | nil => cases blank
  | cons c gap =>
    have white : isBlank c = true ∧ allBlank gap = true := by
      simpa [isGap, allBlank_cons] using blank
    rw [List.cons_append, afterBlanks?, if_pos white.1, trimStart_spaced white.2 solid]

theorem afterBlanks?_eq_some {s rest : List Char} (found : afterBlanks? s = some rest) :
    ∃ gap, isGap gap = true ∧ s = gap ++ rest := by
  cases s with
  | nil => cases found
  | cons c s =>
    rw [afterBlanks?] at found
    split at found
    · rename_i white
      cases found
      refine ⟨c :: s.takeWhile isBlank, ?_, by rw [List.cons_append, takeWhile_trimStart]⟩
      simp [isGap, allBlank_cons, white, allBlank_takeWhile]
    · cases found

theorem isName_head {name : List Char} (named : isName name = true) (rest : List Char) :
    ∃ c, (name ++ rest).head? = some c ∧ startsName c = true := by
  cases name with
  | nil => cases named
  | cons c name => exact ⟨c, rfl, (Bool.and_eq_true_iff.mp named).1⟩

theorem isBlank_of_isWord {c : Char} (word : isWord c = true) : isBlank c = false := by
  cases white : isBlank c with
  | false => rfl
  | true => rw [isWord_of_isBlank white] at word; cases word

theorem name?_run {name rest : List Char} (named : isName name = true)
    (stops : ∀ c, rest.head? = some c → isWord c = false) :
    name? (name ++ rest) = some (name, rest) := by
  cases name with
  | nil => cases named
  | cons c name =>
    obtain ⟨first, later⟩ := Bool.and_eq_true_iff.mp named
    rw [List.cons_append, name?, if_pos first, takeWhile_run later stops, dropWhile_run later stops]

theorem name?_eq_some {s name rest : List Char} (found : name? s = some (name, rest)) :
    isName name = true ∧ s = name ++ rest := by
  cases s with
  | nil => cases found
  | cons c s =>
    rw [name?] at found
    split at found
    · rename_i first
      cases found
      refine ⟨?_, by rw [List.cons_append, List.takeWhile_append_dropWhile]⟩
      rw [isName, first, List.all_takeWhile]
      rfl
    · cases found

inductive Declares (keyword name : List Char) : List Char → Prop
  | intro {gap space : List Char} (apart : isGap gap = true) (named : isName name = true)
      (blank : allBlank space = true) : Declares keyword name (keyword ++ gap ++ name ++ space)

theorem Declares.cons {c : Char} {keyword name front : List Char}
    (declares : Declares (c :: keyword) name front) : ∃ rest, front = c :: rest := by
  cases declares
  exact ⟨_, rfl⟩

theorem Declares.append {keyword name front space : List Char}
    (declares : Declares keyword name front) (blank : allBlank space = true) :
    Declares keyword name (front ++ space) := by
  obtain ⟨apart, named, first⟩ := declares
  rw [List.append_assoc]
  refine .intro apart named ?_
  rw [allBlank, List.all_append, Bool.and_eq_true]
  exact ⟨first, blank⟩

def named? {α : Type} (keyword : List Char) (read : List Char → List Char → Option α)
    (s : List Char) : Option α :=
  (after? keyword s).elim none fun s => (afterBlanks? s).elim none fun s =>
    (name? s).elim none fun found => read found.1 (trimStart found.2)

section Named

variable {α : Type} {keyword : List Char} {read : List Char → List Char → Option α}

theorem named?_of_declares {name front rest : List Char} (declares : Declares keyword name front)
    (stops : ∀ c, rest.head? = some c → isWord c = false ∧ isBlank c = false) :
    named? keyword read (front ++ rest) = read name rest := by
  obtain ⟨apart, named, blank⟩ := declares
  rename_i gap space
  obtain ⟨first, head, letter⟩ := isName_head named (space ++ rest)
  have solid : ∀ c, (name ++ (space ++ rest)).head? = some c → isBlank c = false := by
    intro c found
    rw [head] at found
    cases found
    exact isBlank_of_isWord (isWord_of_startsName letter)
  have ends : ∀ c, (space ++ rest).head? = some c → isWord c = false := by
    intro c found
    cases space with
    | nil => exact (stops c found).1
    | cons d space =>
      cases found
      exact isWord_of_isBlank (allBlank_cons.mp blank).1
  have parts : keyword ++ gap ++ name ++ space ++ rest =
      keyword ++ (gap ++ (name ++ (space ++ rest))) := by
    simp only [List.append_assoc]
  rw [named?, parts, after?_eq_some_iff.mpr rfl, Option.elim_some, afterBlanks?_gap apart solid,
    Option.elim_some, name?_run named ends, Option.elim_some,
    trimStart_spaced blank fun c found => (stops c found).2]

theorem named?_eq_some {s : List Char} {a : α} (found : named? keyword read s = some a) :
    ∃ name front rest, Declares keyword name front ∧ s = front ++ rest ∧
      read name rest = some a := by
  simp only [named?, ← bind_eq_elim] at found
  obtain ⟨behind, word, spaced⟩ := Option.bind_eq_some_iff.mp found
  obtain ⟨code, blanks, identified⟩ := Option.bind_eq_some_iff.mp spaced
  obtain ⟨⟨name, rest⟩, naming, taken⟩ := Option.bind_eq_some_iff.mp identified
  obtain ⟨named, rfl⟩ := name?_eq_some naming
  obtain ⟨gap, apart, rfl⟩ := afterBlanks?_eq_some blanks
  refine ⟨name, _, trimStart rest, .intro apart named (allBlank_takeWhile rest), ?_, taken⟩
  rw [after?_eq_some_iff.mp word, List.append_assoc _ _ (trimStart rest), takeWhile_trimStart]
  simp only [List.append_assoc]

end Named

section Paren

variable {α : Type} {accept : List Char → Option α} {s inner : List Char}

theorem upToParen_eq_some {a : α} (found : upToParen accept s = some (inner, a)) :
    ∃ rest, s = inner ++ ')' :: rest ∧ accept rest = some a ∧
      ∀ other behind, s = other ++ ')' :: behind → (accept behind).isSome = true →
        inner <+: other := by
  induction s generalizing inner with
  | nil => cases found
  | cons c s ih =>
    rw [upToParen] at found
    cases here : (if c = ')' then accept s else none) with
    | some b =>
      rw [here] at found
      cases found
      split at here
      · subst c
        exact ⟨s, rfl, here, fun _ _ _ _ => List.nil_prefix⟩
      · cases here
    | none =>
      rw [here] at found
      dsimp only at found
      split at found
      · cases found
      obtain ⟨⟨front, b⟩, later, same⟩ := Option.map_eq_some_iff.mp found
      cases same
      obtain ⟨rest, whole, accepted, first⟩ := ih later
      refine ⟨rest, by rw [whole]; rfl, accepted, ?_⟩
      intro other behind split acceptable
      rcases other with _ | ⟨d, other⟩
      · cases split
        rw [if_pos rfl] at here
        rw [here] at acceptable
        cases acceptable
      · obtain ⟨rfl, inside⟩ := List.cons_eq_cons.mp split
        exact List.cons_prefix_cons.mpr ⟨rfl, first other behind inside acceptable⟩

theorem upToParen_isSome (flat : '\n' ∉ s) {behind : List Char} (split : s = inner ++ ')' :: behind)
    (acceptable : (accept behind).isSome = true) : (upToParen accept s).isSome = true := by
  induction s generalizing inner with
  | nil => simp at split
  | cons c s ih =>
    obtain ⟨noFeed, flat⟩ := List.ne_and_not_mem_of_not_mem_cons flat
    rw [upToParen]
    cases here : (if c = ')' then accept s else none) with
    | some b => rfl
    | none =>
      dsimp only
      rw [if_neg (Ne.symm noFeed), Option.isSome_map]
      rcases inner with _ | ⟨d, inner⟩
      · cases split
        rw [if_pos rfl] at here
        rw [here] at acceptable
        cases acceptable
      · obtain ⟨-, inside⟩ := List.cons_eq_cons.mp split
        exact ih flat inside

end Paren

inductive IsColon : List Char → Prop
  | intro {space : List Char} (rest : List Char) (blank : allBlank space = true) :
      IsColon (space ++ ':' :: rest)

/-- The end of a function header with its annotation: white space, then a colon, or an arrow and at
least one character before the next colon. -/
inductive IsReturns : List Char → Option (List Char) → Prop
  | colon {space : List Char} (rest : List Char) (blank : allBlank space = true) :
      IsReturns (space ++ ':' :: rest) none
  | arrow {space type : List Char} (rest : List Char) (blank : allBlank space = true)
      (filled : type ≠ []) (free : ':' ∉ type) :
      IsReturns (space ++ '-' :: '>' :: (type ++ ':' :: rest)) (some (trim type))

theorem colon?_isSome_iff {s : List Char} : (colon? s).isSome = true ↔ IsColon s := by
  rw [colon?_eq]
  constructor
  · intro found
    cases colon : after? [':'] (trimStart s) with
    | none =>
      rw [colon] at found
      cases found
    | some rest =>
      rw [← takeWhile_trimStart s, after?_eq_some_iff.mp colon]
      exact .intro rest (allBlank_takeWhile s)
  · rintro ⟨rest, blank⟩
    rw [trimStart_spaced blank fun c found => by cases found; rfl]
    rfl

theorem annotation?_eq_some_iff {s : List Char} {returns : Option (List Char)} :
    annotation? s = some returns ↔
      ∃ type rest, type ≠ [] ∧ ':' ∉ type ∧ s = type ++ ':' :: rest ∧
        returns = some (trim type) := by
  rw [annotation?]
  constructor
  · intro found
    cases colon : after? [':'] (s.dropWhile (· != ':')) with
    | none =>
      rw [colon] at found
      cases found
    | some rest =>
      rw [colon, Option.elim_some] at found
      split at found
      · cases found
      · rename_i filled
        cases found
        refine ⟨s.takeWhile (· != ':'), rest, by simpa using filled, ?_, ?_, rfl⟩
        · intro member
          have kept := List.mem_takeWhile_imp member
          simp at kept
        · have ends : s.dropWhile (· != ':') = ':' :: rest := after?_eq_some_iff.mp colon
          rw [← ends, List.takeWhile_append_dropWhile]
  · rintro ⟨type, rest, filled, free, rfl, rfl⟩
    have inside : type.all (· != ':') = true := by
      rw [List.all_eq_true]
      intro c member
      simpa using ne_of_mem_of_not_mem member free
    have stops : ∀ c, (':' :: rest).head? = some c → (c != ':') = false := by
      intro c found
      cases found
      rfl
    rw [takeWhile_run inside stops, dropWhile_run inside stops, if_neg (by simpa using filled)]
    rfl

theorem returns?_eq_some_iff {s : List Char} {returns : Option (List Char)} :
    returns? s = some returns ↔ IsReturns s returns := by
  rw [returns?_eq]
  constructor
  · intro found
    rw [← takeWhile_trimStart s]
    have blank := allBlank_takeWhile s
    cases colon : after? [':'] (trimStart s) with
    | some rest =>
      rw [colon] at found
      cases found
      rw [after?_eq_some_iff.mp colon]
      exact .colon rest blank
    | none =>
      rw [colon, Option.elim_none, ← bind_eq_elim] at found
      obtain ⟨behind, arrow, found⟩ := Option.bind_eq_some_iff.mp found
      obtain ⟨type, rest, filled, free, rfl, rfl⟩ := annotation?_eq_some_iff.mp found
      rw [after?_eq_some_iff.mp arrow]
      exact .arrow rest blank filled free
  · intro ends
    cases ends with
    | colon rest blank =>
      rw [trimStart_spaced blank fun c found => by cases found; rfl]
      rfl
    | arrow rest blank filled free =>
      rw [trimStart_spaced blank fun c found => by cases found; rfl]
      exact annotation?_eq_some_iff.mpr ⟨_, rest, filled, free, rfl, rfl⟩

theorem IsReturns.isSome {s : List Char} {returns : Option (List Char)}
    (ends : IsReturns s returns) : (returns? s).isSome = true := by
  rw [returns?_eq_some_iff.mpr ends]
  rfl

inductive IsAsync : Bool → List Char → Prop
  | absent : IsAsync false []
  | present {gap : List Char} (apart : isGap gap = true) :
      IsAsync true (['a', 's', 'y', 'n', 'c'] ++ gap)

namespace FunctionHeader

inductive Opens (header : FunctionHeader) : List Char → Prop
  | intro {word definition : List Char} (indented : header.indent.all isIndent = true)
      (async : IsAsync header.isAsync word)
      (declares : Declares ['d', 'e', 'f'] header.name definition) :
      Opens header (header.indent ++ word ++ definition)

/-- A line can be read as a header, with some closing parenthesis that has an acceptable rest. -/
inductive Spells (header : FunctionHeader) : Line → Prop
  | intro {front tail : List Char} (opens : header.Opens front)
      (ends : IsReturns tail header.returns) :
      Spells header (front ++ '(' :: (header.params ++ ')' :: tail))

/-- The reading of a line whose parentheses close first. All others have the same parts before the
parentheses. -/
structure IsReading (header : FunctionHeader) (line : Line) : Prop where
  spells : header.Spells line
  first : ∀ other : FunctionHeader, other.Spells line →
    other.indent = header.indent ∧ other.isAsync = header.isAsync ∧ other.name = header.name ∧
      header.params <+: other.params

theorem definition?_eq_named? (s : List Char) :
    definition? s = named? ['d', 'e', 'f'] (fun name s => (after? ['('] s).elim none fun s =>
      (upToParen returns? s).elim none fun parts => some (name, parts.1, parts.2)) s :=
  definition?_eq s

theorem definition?_of_declares {name front : List Char}
    (declares : Declares ['d', 'e', 'f'] name front) (s : List Char) :
    definition? (front ++ '(' :: s) = (upToParen returns? s).map fun parts => (name, parts) := by
  have stops : ∀ c, ('(' :: s).head? = some c → isWord c = false ∧ isBlank c = false := by
    intro c found
    cases found
    decide
  have opened : after? ['('] ('(' :: s) = some s := after?_eq_some_iff.mpr rfl
  rw [definition?_eq_named?, named?_of_declares declares stops, opened, Option.elim_some]
  cases upToParen returns? s <;> rfl

theorem definition?_eq_some {s name params : List Char} {returns : Option (List Char)}
    (found : definition? s = some (name, params, returns)) :
    ∃ front inner, Declares ['d', 'e', 'f'] name front ∧ s = front ++ '(' :: inner ∧
      upToParen returns? inner = some (params, returns) := by
  rw [definition?_eq_named?] at found
  obtain ⟨word, front, rest, declares, rfl, read⟩ := named?_eq_some found
  rw [← bind_eq_elim] at read
  obtain ⟨inner, opened, closed⟩ := Option.bind_eq_some_iff.mp read
  rw [← bind_eq_elim] at closed
  obtain ⟨parts, upTo, same⟩ := Option.bind_eq_some_iff.mp closed
  cases same
  exact ⟨front, inner, declares, by rw [after?_eq_some_iff.mp opened]; rfl, upTo⟩

theorem async?_of_declares {name definition : List Char}
    (declares : Declares ['d', 'e', 'f'] name definition) {isAsync : Bool} {word : List Char}
    (async : IsAsync isAsync word) (s : List Char) :
    async? (word ++ (definition ++ s)) = if isAsync then some (definition ++ s) else none := by
  obtain ⟨rest, rfl⟩ := declares.cons
  cases async with
  | absent => rfl
  | present apart =>
    rename_i gap
    have solid : ∀ c, ('d' :: rest ++ s).head? = some c → isBlank c = false := by
      intro c found
      cases found
      rfl
    have word : after? ['a', 's', 'y', 'n', 'c'] (['a', 's', 'y', 'n', 'c'] ++ gap ++
        ('d' :: rest ++ s)) = some (gap ++ ('d' :: rest ++ s)) :=
      after?_eq_some_iff.mpr (by rw [List.append_assoc])
    rw [async?, word, Option.bind_some, afterBlanks?_gap apart solid]
    rfl

theorem parse?_of_opens {header : FunctionHeader} {front : List Char} (opens : header.Opens front)
    (s : List Char) :
    parse? (front ++ '(' :: s) = (upToParen returns? s).map fun parts =>
      { header with params := parts.1, returns := parts.2 } := by
  obtain ⟨indented, async, declares⟩ := opens
  rename_i word definition
  have parts : header.indent ++ word ++ definition ++ '(' :: s =
      header.indent ++ (word ++ (definition ++ '(' :: s)) := by
    simp only [List.append_assoc]
  have stops : ∀ c, (word ++ (definition ++ '(' :: s)).head? = some c → isIndent c = false := by
    intro c found
    obtain ⟨rest, rfl⟩ := declares.cons
    generalize header.isAsync = isAsync at async
    cases async with
    | absent =>
      cases found
      rfl
    | present apart =>
      cases found
      rfl
  have code : (async? (word ++ (definition ++ '(' :: s))).getD (word ++ (definition ++ '(' :: s)) =
      definition ++ '(' :: s := by
    rw [async?_of_declares declares async]
    generalize header.isAsync = isAsync at async
    cases async <;> rfl
  have flag : (async? (word ++ (definition ++ '(' :: s))).isSome = header.isAsync := by
    rw [async?_of_declares declares async]
    cases header.isAsync <;> rfl
  rw [parse?, parts, takeWhile_run indented stops, dropWhile_run indented stops, code, flag,
    definition?_of_declares declares, Option.map_map]
  rfl

theorem parse?_eq_some {line : Line} {header : FunctionHeader} (found : parse? line = some header) :
    ∃ front inner, header.Opens front ∧ line = front ++ '(' :: inner ∧
      upToParen returns? inner = some (header.params, header.returns) := by
  obtain ⟨⟨name, params, returns⟩, defined, rfl⟩ := Option.map_eq_some_iff.mp found
  have indented : (line.takeWhile isIndent).all isIndent = true := List.all_takeWhile
  have whole : line.takeWhile isIndent ++ line.dropWhile isIndent = line :=
    List.takeWhile_append_dropWhile
  obtain ⟨front, inner, declares, code, closed⟩ := definition?_eq_some defined
  cases asynchronous : async? (line.dropWhile isIndent) with
  | none =>
    rw [asynchronous, Option.getD_none] at code
    refine ⟨_, inner, .intro indented .absent declares, ?_, closed⟩
    rw [List.append_nil, List.append_assoc, ← code, whole]
  | some behind =>
    obtain ⟨rest, word, blanks⟩ := Option.bind_eq_some_iff.mp asynchronous
    obtain ⟨gap, apart, rfl⟩ := afterBlanks?_eq_some blanks
    rw [asynchronous, Option.getD_some] at code
    subst code
    refine ⟨_, inner, .intro indented (.present apart) declares, ?_, closed⟩
    have parts := whole.symm
    rw [after?_eq_some_iff.mp word] at parts
    exact parts.trans (by simp only [List.append_assoc])

section Reading

variable {line : Line} {header other : FunctionHeader}

theorem Spells.isSome (spells : header.Spells line) (flat : '\n' ∉ line) :
    (parse? line).isSome = true := by
  obtain ⟨opens, ends⟩ := spells
  rename_i front tail
  have inner : '\n' ∉ header.params ++ ')' :: tail := fun member => flat (by simp [member])
  rw [parse?_of_opens opens, Option.isSome_map, upToParen_isSome inner rfl ends.isSome]

theorem spells_of_parse? (found : parse? line = some header) : header.Spells line := by
  obtain ⟨front, inner, opens, rfl, closed⟩ := parse?_eq_some found
  obtain ⟨tail, rfl, ends, -⟩ := upToParen_eq_some closed
  exact .intro opens (returns?_eq_some_iff.mp ends)

theorem isReading_of_parse? (found : parse? line = some header) : header.IsReading line where
  spells := spells_of_parse? found
  first := by
    rintro other ⟨opens, ends⟩
    rename_i front tail
    rw [parse?_of_opens opens] at found
    obtain ⟨parts, closed, rfl⟩ := Option.map_eq_some_iff.mp found
    obtain ⟨rest, -, -, first⟩ := upToParen_eq_some closed
    exact ⟨rfl, rfl, rfl, first other.params tail rfl ends.isSome⟩

theorem IsReading.parse?_eq (reading : header.IsReading line) (flat : '\n' ∉ line) :
    parse? line = some header := by
  obtain ⟨found, parsed⟩ := Option.isSome_iff_exists.mp (reading.spells.isSome flat)
  obtain ⟨-, -, -, shorter⟩ := reading.first found (spells_of_parse? parsed)
  obtain ⟨opens, ends⟩ := reading.spells
  rename_i front tail
  have accepted := returns?_eq_some_iff.mpr ends
  rw [parse?_of_opens opens] at parsed ⊢
  obtain ⟨⟨params, returns⟩, closed, rfl⟩ := Option.map_eq_some_iff.mp parsed
  obtain ⟨rest, split, taken, first⟩ := upToParen_eq_some closed
  -- A reading closes at the first parenthesis that can close it, and so does the reader.
  have longer : params <+: header.params := first header.params tail rfl ends.isSome
  have same : params = header.params := longer.eq_of_length_le shorter.length_le
  -- Both close at the same parenthesis, so they have the same rest and the same annotation.
  subst same
  cases List.append_cancel_left split
  rw [accepted] at taken
  cases taken
  rw [closed]
  rfl

end Reading

end FunctionHeader

namespace ClassHeader

/-- A line can be read as a header, without parentheses or with some closing parenthesis that has
an acceptable rest. -/
inductive Spells (header : ClassHeader) : Line → Prop
  | bare {front : List Char} (rest : List Char)
      (declares : Declares ['c', 'l', 'a', 's', 's'] header.name front)
      (none : header.bases = []) : Spells header (front ++ ':' :: rest)
  | based {front tail : List Char}
      (declares : Declares ['c', 'l', 'a', 's', 's'] header.name front) (ends : IsColon tail) :
      Spells header (front ++ '(' :: (header.bases ++ ')' :: tail))

/-- The reading of a line whose parentheses close first. All others have the same name. -/
structure IsReading (header : ClassHeader) (line : Line) : Prop where
  spells : header.Spells line
  first : ∀ other : ClassHeader, other.Spells line →
    other.name = header.name ∧ header.bases <+: other.bases

def behind? (name s : List Char) : Option ClassHeader :=
  (after? ['('] s).elim ((colon? s).elim none fun _ => some { name, bases := [] })
    fun s => (upToParen colon? s).elim none fun parts => some { name, bases := parts.1 }

theorem parse?_eq_named? (line : Line) :
    parse? line = named? ['c', 'l', 'a', 's', 's'] behind? line :=
  parse?_eq line

theorem parse?_bare {name front : List Char}
    (declares : Declares ['c', 'l', 'a', 's', 's'] name front) (rest : List Char) :
    parse? (front ++ ':' :: rest) = some { name, bases := [] } := by
  rw [parse?_eq_named?, named?_of_declares declares]
  · rfl
  · intro c found
    cases found
    decide

theorem parse?_based {name front : List Char}
    (declares : Declares ['c', 'l', 'a', 's', 's'] name front) (s : List Char) :
    parse? (front ++ '(' :: s) = (upToParen colon? s).map fun parts => { name, bases := parts.1 } := by
  rw [parse?_eq_named?, named?_of_declares declares]
  · have opened : after? ['('] ('(' :: s) = some s := after?_eq_some_iff.mpr rfl
    rw [behind?, opened, Option.elim_some]
    cases upToParen colon? s <;> rfl
  · intro c found
    cases found
    decide

section Reading

variable {line : Line} {header other : ClassHeader}

theorem Spells.isSome (spells : header.Spells line) (flat : '\n' ∉ line) :
    (parse? line).isSome = true := by
  cases spells with
  | bare rest declares none => rw [parse?_bare declares]; rfl
  | @based front tail declares ends =>
    have inner : '\n' ∉ header.bases ++ ')' :: tail := fun member => flat (by simp [member])
    rw [parse?_based declares, Option.isSome_map,
      upToParen_isSome inner rfl (colon?_isSome_iff.mpr ends)]

theorem spells_of_parse? (found : parse? line = some header) : header.Spells line := by
  rw [parse?_eq_named?] at found
  obtain ⟨name, front, rest, declares, rfl, read⟩ := named?_eq_some found
  rw [behind?] at read
  cases opened : after? ['('] rest with
  | none =>
    rw [opened, Option.elim_none, ← bind_eq_elim] at read
    obtain ⟨_, colon, same⟩ := Option.bind_eq_some_iff.mp read
    cases same
    obtain ⟨behind, blank⟩ := colon?_isSome_iff.mp (by rw [colon]; rfl : (colon? rest).isSome = true)
    rw [← List.append_assoc]
    exact .bare behind (declares.append blank) rfl
  | some inner =>
    rw [opened, Option.elim_some, ← bind_eq_elim] at read
    obtain ⟨⟨bases, _⟩, closed, same⟩ := Option.bind_eq_some_iff.mp read
    cases same
    obtain ⟨tail, rfl, colon, -⟩ := upToParen_eq_some closed
    rw [after?_eq_some_iff.mp opened]
    exact .based declares (colon?_isSome_iff.mp (by rw [colon]; rfl))

theorem isReading_of_parse? (found : parse? line = some header) : header.IsReading line where
  spells := spells_of_parse? found
  first := by
    intro other spells
    cases spells with
    | bare rest declares none =>
      rw [parse?_bare declares] at found
      cases found
      exact ⟨rfl, List.nil_prefix⟩
    | @based front tail declares ends =>
      rw [parse?_based declares] at found
      obtain ⟨parts, closed, rfl⟩ := Option.map_eq_some_iff.mp found
      obtain ⟨rest, -, -, first⟩ := upToParen_eq_some closed
      exact ⟨rfl, first other.bases tail rfl (colon?_isSome_iff.mpr ends)⟩

theorem IsReading.parse?_eq (reading : header.IsReading line) (flat : '\n' ∉ line) :
    parse? line = some header := by
  obtain ⟨found, parsed⟩ := Option.isSome_iff_exists.mp (reading.spells.isSome flat)
  obtain ⟨name, shorter⟩ := reading.first found (spells_of_parse? parsed)
  obtain ⟨-, longer⟩ := (isReading_of_parse? parsed).first header reading.spells
  have bases : found.bases = header.bases := longer.eq_of_length_le shorter.length_le
  rw [parsed]
  obtain ⟨word, inner⟩ := found
  cases name
  cases bases
  rfl

end Reading

end ClassHeader

/-- A line is a header exactly if the grammar can spell it as one, and what is read off it is the
spelling that closes first. -/
theorem headers_follow_grammar {line : Line} (flat : '\n' ∉ line) :
    ((FunctionHeader.parse? line).isSome = true ↔ ∃ header : FunctionHeader, header.Spells line) ∧
    (∀ header, FunctionHeader.parse? line = some header ↔ header.IsReading line) ∧
    ((ClassHeader.parse? line).isSome = true ↔ ∃ header : ClassHeader, header.Spells line) ∧
    ∀ header, ClassHeader.parse? line = some header ↔ header.IsReading line := by
  refine ⟨⟨?_, ?_⟩, ?_, ⟨?_, ?_⟩, ?_⟩
  · intro found
    obtain ⟨header, parsed⟩ := Option.isSome_iff_exists.mp found
    exact ⟨header, FunctionHeader.spells_of_parse? parsed⟩
  · rintro ⟨header, spells⟩
    exact spells.isSome flat
  · intro header
    exact ⟨FunctionHeader.isReading_of_parse?, fun reading => reading.parse?_eq flat⟩
  · intro found
    obtain ⟨header, parsed⟩ := Option.isSome_iff_exists.mp found
    exact ⟨header, ClassHeader.spells_of_parse? parsed⟩
  · rintro ⟨header, spells⟩
    exact spells.isSome flat
  · intro header
    exact ⟨ClassHeader.isReading_of_parse?, fun reading => reading.parse?_eq flat⟩

/-- Headers that can also be closed at a later parenthesis. -/
theorem headers_follow_grammar_closed_first :
    ('\n' ∉ "\tasync def f(a=g(1)) -> T[x] : return (a): pass".toList ∧
      FunctionHeader.IsReading
        ⟨['\t'], true, ['f'], "a=g(1)".toList, some "T[x]".toList⟩
        "\tasync def f(a=g(1)) -> T[x] : return (a): pass".toList) ∧
    '\n' ∉ "class A (B, C(1)) : D(x): pass".toList ∧
      ClassHeader.IsReading ⟨['A'], "B, C(1)".toList⟩ "class A (B, C(1)) : D(x): pass".toList := by
  have function : '\n' ∉ "\tasync def f(a=g(1)) -> T[x] : return (a): pass".toList := by decide
  have type : '\n' ∉ "class A (B, C(1)) : D(x): pass".toList := by decide
  exact ⟨⟨function, ((headers_follow_grammar function).2.1 _).mp (by decide +kernel)⟩,
    type, ((headers_follow_grammar type).2.2.2 _).mp (by decide +kernel)⟩

end Outline.Source
