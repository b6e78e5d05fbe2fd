import Outline.Proofs.Text.Basic
import Outline.Proofs.Text.Lines
import Outline.Source.Member

namespace Outline.Source

open Outline.Text

def separates (c : Char) : Bool := !isWord c && c != '.' && c != '('

theorem separates_iff {c : Char} :
    separates c = true ↔ isWord c = false ∧ c ≠ '.' ∧ c ≠ '(' := by
  simp [separates, and_assoc]

theorem startsName_of_separates {c : Char} (stop : separates c = true) : startsName c = false := by
  have noWord := (separates_iff.mp stop).1
  cases name : startsName c with
  | false => rfl
  | true =>
    rw [isWord_of_startsName name] at noWord
    cases noWord

theorem chain_of_separates {c : Char} (stop : separates c = true) (rest : List Char) :
    chain (c :: rest) = ([], c :: rest) := by
  obtain ⟨noWord, noDot, -⟩ := separates_iff.mp stop
  cases rest <;> simp [chain, noWord, noDot]

theorem chain_append (s : List Char) {c : Char} (stop : separates c = true) (rest : List Char) :
    chain (s ++ c :: rest) = ((chain s).1, (chain s).2 ++ c :: rest) := by
  fun_induction chain s with
  | case1 => exact chain_of_separates stop rest
  | case2 a word => simp [chain, word, chain_of_separates stop]
  | case3 a noWord => simp [chain, noWord, startsName_of_separates stop]
  | case4 a d s inside run behind same ih =>
    rw [same] at ih
    simp only [List.cons_append] at ih ⊢
    rw [chain, if_pos inside, ih]
  | case5 a d s outside =>
    simp only [List.cons_append]
    rw [chain, if_neg outside]

theorem chain_join (s : List Char) : (chain s).1 ++ (chain s).2 = s := by
  fun_induction chain s with
  | case1 => rfl
  | case2 a word => rfl
  | case3 a noWord => rfl
  | case4 a d s inside run behind same ih =>
    rw [same] at ih
    simpa using ih
  | case5 a d s outside => rfl

theorem call?_eq_some_iff {s run : List Char} :
    call? s = some run ↔ ∃ behind, chain s = (run, '(' :: behind) := by
  unfold call?
  constructor
  · intro found
    split at found
    · rename_i front tail same
      cases found
      exact ⟨tail, same⟩
    · cases found
  · rintro ⟨behind, same⟩
    simp only [same]

theorem call?_append (s : List Char) {c : Char} (stop : separates c = true) (rest : List Char) :
    call? (s ++ c :: rest) = call? s := by
  have noParen := (separates_iff.mp stop).2.2
  apply Option.ext
  intro run
  rw [call?_eq_some_iff, call?_eq_some_iff, chain_append s stop rest]
  rcases chain s with ⟨front, behind⟩
  cases behind with
  | nil => simp [noParen]
  | cons a tail => simp

theorem call?_length {s run : List Char} (found : call? s = some run) : run.length < s.length := by
  obtain ⟨behind, same⟩ := call?_eq_some_iff.mp found
  have whole := chain_join s
  rw [same] at whole
  rw [← whole]
  simp

theorem chainsFrom_shift (skip : Nat) (boundary : Bool) (offset shift : Nat) (s : List Char) :
    chainsFrom skip boundary (offset + shift) s =
      (chainsFrom skip boundary offset s).map fun call => (call.1 + shift, call.2) := by
  fun_induction chainsFrom skip boundary offset s with
  | case1 => rfl
  | case2 boundary offset c rest more ih =>
    rw [chainsFrom, ← ih, Nat.add_right_comm]
  | case3 boundary offset c rest run found ih =>
    simp only [chainsFrom, found, List.map_cons]
    rw [← ih, Nat.add_right_comm]
  | case4 boundary offset c rest found ih =>
    simp only [chainsFrom, found]
    rw [← ih, Nat.add_right_comm]

theorem offset_lt_of_mem_chainsFrom {skip offset : Nat} {boundary : Bool} {s : List Char}
    {call : Nat × List Char} (member : call ∈ chainsFrom skip boundary offset s) :
    call.1 < offset + byteLength s := by
  fun_induction chainsFrom skip boundary offset s with
  | case1 => cases member
  | case2 boundary offset c rest more ih =>
    have bound := ih member
    rw [byteLength_cons]
    omega
  | case3 boundary offset c rest run found ih =>
    rw [byteLength_cons]
    rcases List.mem_cons.mp member with rfl | later
    · have positive := Char.utf8Size_pos c
      dsimp only
      omega
    · have bound := ih later
      omega
  | case4 boundary offset c rest found ih =>
    have bound := ih member
    rw [byteLength_cons]
    omega

theorem chainsFrom_append {skip : Nat} (boundary : Bool) (offset : Nat) {s : List Char} {c : Char}
    (stop : separates c = true) (rest : List Char) (fits : skip ≤ s.length) :
    chainsFrom skip boundary offset (s ++ c :: rest) =
      chainsFrom skip boundary offset s ++
        chainsFrom 0 true (offset + byteLength s + c.utf8Size) rest := by
  fun_induction chainsFrom skip boundary offset s with
  | case1 skip boundary offset =>
    have none : skip = 0 := Nat.le_zero.mp fits
    subst none
    simp [chainsFrom, startsName_of_separates stop, (separates_iff.mp stop).1, byteLength_nil]
  | case2 boundary offset a s more ih =>
    rw [List.cons_append, chainsFrom, ih (Nat.le_of_succ_le_succ fits), byteLength_cons,
      Nat.add_assoc offset]
  | case3 boundary offset a s run found ih =>
    have ends : run.length ≤ s.length := by
      split at found
      · exact Nat.le_of_lt_succ (call?_length found)
      · cases found
    have same : (if boundary && startsName a then call? (a :: (s ++ c :: rest)) else none) =
        some run := by
      rw [← List.cons_append, call?_append _ stop, found]
    simp only [List.cons_append, chainsFrom, same]
    rw [ih ends, byteLength_cons, Nat.add_assoc offset]
  | case4 boundary offset a s found ih =>
    have same : (if boundary && startsName a then call? (a :: (s ++ c :: rest)) else none) =
        none := by
      rw [← List.cons_append, call?_append _ stop, found]
    simp only [List.cons_append, chainsFrom, same]
    rw [ih (Nat.zero_le _), byteLength_cons, Nat.add_assoc offset]

theorem chains_line {line : List Char} {c : Char} (stop : separates c = true) (rest : List Char) :
    chains (line ++ c :: rest) =
      chains line ++
        (chains rest).map fun call => (call.1 + (byteLength line + c.utf8Size), call.2) := by
  unfold chains
  rw [chainsFrom_append true 0 stop rest (Nat.zero_le _), Nat.add_assoc 0, chainsFrom_shift]

def Caller.site (caller : Caller) (number : Nat) (run : List Char) : CallSite where
  filePath := caller.filePath
  callerType := caller.typeName
  callerMember := caller.member
  calledType := String.ofList (splitChain caller.typeName.toList run).1
  calledMember := String.ofList (splitChain caller.typeName.toList run).2
  line := number

def Caller.lineSites (caller : Caller) (number : Nat) (line : Line) : List CallSite :=
  (chains line).map fun call => caller.site number call.2

def Caller.next (caller : Caller) : Caller := { caller with firstLine := caller.firstLine + 1 }

theorem callSites_eq (body : List Char) (caller : Caller) :
    callSites body caller = (chains body).map fun call =>
      caller.site (caller.firstLine + (LineIndex.ofText body).lineOf call.1 - 1) call.2 := rfl

theorem callSites_last {line : List Char} (free : '\n' ∉ line) (caller : Caller) :
    callSites line caller = caller.lineSites caller.firstLine line := by
  rw [callSites_eq, Caller.lineSites]
  apply List.map_congr_left
  intro call _
  rw [lineOf_last free, Nat.add_sub_cancel]

theorem callSites_line {line : List Char} (free : '\n' ∉ line) (rest : List Char)
    (caller : Caller) :
    callSites (line ++ '\n' :: rest) caller =
      caller.lineSites caller.firstLine line ++ callSites rest caller.next := by
  have feed : separates '\n' = true := by decide
  rw [callSites_eq, callSites_eq, Caller.lineSites, chains_line feed, List.map_append, List.map_map]
  congr 1
  · apply List.map_congr_left
    intro call member
    have within := offset_lt_of_mem_chainsFrom member
    rw [lineOf_first free rest (by omega), Nat.add_sub_cancel]
  · apply List.map_congr_left
    intro call member
    have nonempty : rest ≠ [] := by
      rintro rfl
      cases member
    have later := lineOf_later free nonempty call.1
    have width : '\n'.utf8Size = 1 := by decide
    have counted : caller.firstLine + ((LineIndex.ofText rest).lineOf call.1 + 1) - 1 =
        caller.next.firstLine + (LineIndex.ofText rest).lineOf call.1 - 1 := by
      simp only [Caller.next]
      omega
    simp only [Function.comp_apply, width, later, counted]
    rfl

/-- The calls in a body of lines are those of its lines, each one on the line it stands in. -/
theorem callSites_intercalate (lines : List Line) (free : ∀ line ∈ lines, '\n' ∉ line)
    (caller : Caller) :
    callSites (['\n'].intercalate lines) caller =
      (lines.zipIdx caller.firstLine).flatMap fun entry => caller.lineSites entry.2 entry.1 := by
  induction lines generalizing caller with
  | nil => rfl
  | cons line rest ih =>
    have first : '\n' ∉ line := free line List.mem_cons_self
    have later := ih (fun l member => free l (List.mem_cons_of_mem _ member)) caller.next
    cases rest with
    | nil =>
      rw [List.intercalate_singleton, callSites_last first]
      simp
    | cons second rest =>
      rw [List.intercalate_cons_cons, List.append_assoc, List.singleton_append,
        callSites_line first, later, List.zipIdx_cons, List.flatMap_cons]
      rfl

theorem callSites_bodyText {lines : List Line} (free : ∀ line ∈ lines, '\n' ∉ line)
    (first last : Nat) (caller : Caller) :
    callSites (bodyText lines first last) caller =
      (((lines.drop first).take (last + 1 - first)).zipIdx caller.firstLine).flatMap fun entry =>
        caller.lineSites entry.2 entry.1 := by
  have window : ∀ line ∈ (lines.drop first).take (last + 1 - first), '\n' ∉ line :=
    fun line member => free line (List.mem_of_mem_drop (List.mem_of_mem_take member))
  exact callSites_intercalate _ window caller

end Outline.Source
