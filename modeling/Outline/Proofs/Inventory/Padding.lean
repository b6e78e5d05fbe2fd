import Outline.Proofs.Inventory.Analyze
import Outline.Proofs.Source.Trimmed

namespace Outline

open Outline.Text Outline.Source

/-- The second text is the first with white space, but no line feed, behind each of its lines. -/
inductive Padded : List Char → List Char → Prop where
  | nil : Padded [] []
  | unterminated (line pad : List Char) (nonempty : line ≠ []) (free : '\n' ∉ line)
      (blank : allBlank pad = true) (flat : '\n' ∉ pad) : Padded line (line ++ pad)
  | terminated (line pad : List Char) {s t : List Char} (free : '\n' ∉ line)
      (blank : allBlank pad = true) (flat : '\n' ∉ pad) (rest : Padded s t) :
      Padded (line ++ '\n' :: s) (line ++ pad ++ '\n' :: t)

theorem Padded.pieces {s t : List Char} (related : Padded s t) :
    (pieces t).map trimEnd = (pieces s).map trimEnd := by
  induction related with
  | nil => rfl
  | unterminated line pad nonempty free blank flat =>
    have whole : '\n' ∉ line ++ pad := by simp [free, flat]
    rw [pieces_last whole (by simp [nonempty]), pieces_last free nonempty, List.map_singleton,
      List.map_singleton, trimEnd_append blank]
  | @terminated line pad s t free blank flat rest ih =>
    have whole : '\n' ∉ line ++ pad := by simp [free, flat]
    have feed : allBlank ['\n'] = true := by decide
    rw [pieces_line whole, pieces_line free, List.map_cons, List.map_cons, ih,
      trimEnd_append feed, trimEnd_append feed, trimEnd_append blank]

theorem Padded.head? {s t : List Char} (related : Padded s t)
    (unmarked : s.head? ≠ some '\ufeff') : t.head? ≠ some '\ufeff' := by
  cases related with
  | nil => exact unmarked
  | unterminated _ pad nonempty free blank flat =>
    cases s with
    | nil => exact absurd rfl nonempty
    | cons c line => exact unmarked
  | @terminated line pad s t free blank flat rest =>
    cases line with
    | cons c line => exact unmarked
    | nil =>
      cases pad with
      | nil => simp
      | cons c pad =>
        have first := (allBlank_cons.mp blank).1
        simp only [List.nil_append, List.cons_append, List.head?_cons, ne_eq, Option.some.injEq]
        rintro rfl
        exact absurd first (by decide)

theorem dropByteOrderMark_of_head? {text : List Char} (unmarked : text.head? ≠ some '\ufeff') :
    dropByteOrderMark text = text := by
  cases text with
  | nil => rfl
  | cons c rest =>
    have other : c ≠ '\ufeff' := by simpa using unmarked
    rw [dropByteOrderMark, if_neg other]

theorem Padded.imports {s t : List Char} (related : Padded s t) : imports t = imports s := by
  unfold Source.imports
  rw [← importsOfLines_trimmed, importLines_trimmed, related.pieces, ← importLines_trimmed,
    importsOfLines_trimmed]

theorem fileDocstring?_trimmed (lines : List Line) :
    fileDocstring? (lines.map trimEnd) = fileDocstring? lines := by
  have same : (fun line => !allBlank line) ∘ trimEnd = fun line => !allBlank line := by
    funext line
    rw [Function.comp_apply, allBlank_ignoresPadding.trimmed]
  rw [fileDocstring?, List.findIdx?_map, same, funext (docstring?_trimmed lines), fileDocstring?]

theorem fileContainer?_trimmed (lines : List Line) (name : String) (functions : List Extracted) :
    fileContainer? (lines.map trimEnd) name functions = fileContainer? lines name functions := by
  rw [fileContainer?, fileDocstring?_trimmed, List.length_map, fileContainer?]

theorem fileInventory_size (path base : String) (size other : Nat) (modules : List (List Char))
    (types : List Container) :
    fileInventory path base size modules types =
      { fileInventory path base other modules types with
        sizeBytes := size
        tokenEstimate := estimateTokens size } := by
  simp only [fileInventory, Role.ofInventory, Role.Facts.ofInventory]

/-- Apart from the sizes an analysis depends on the trimmed lines and the imported modules only. -/
theorem analyze_of_trimmed (path base : String) {text content : String}
    (same : (sourceLines text).map trimEnd = (sourceLines content).map trimEnd)
    (modules : imports (dropByteOrderMark text.toList) =
      imports (dropByteOrderMark content.toList)) :
    (analyze path base text).calls = (analyze path base content).calls ∧
    (analyze path base text).inventory =
      { (analyze path base content).inventory with
        sizeBytes := text.utf8ByteSize
        tokenEstimate := estimateTokens text.utf8ByteSize } := by
  have free := sourceLines_no_feed
  have classes : Source.classes (sourceLines text) path =
      Source.classes (sourceLines content) path := by
    rw [← classes_trimmed (free text), same, classes_trimmed (free content)]
  have functions : fileFunctions (sourceLines text) (fileOwner path) =
      fileFunctions (sourceLines content) (fileOwner path) := by
    rw [← fileFunctions_trimmed (free text), same, fileFunctions_trimmed (free content)]
  have types : (analyze path base text).inventory.types =
      (analyze path base content).inventory.types := by
    rw [analyze_types, analyze_types, classes, functions, ← fileContainer?_trimmed, same,
      fileContainer?_trimmed]
  constructor
  · rw [analyze_calls, analyze_calls, classes, functions]
  · rw [analyze_inventory, analyze_inventory path base content, types, modules]
    exact fileInventory_size ..

theorem analyze_padded (path base : String) {content padded mark : String}
    (unmarked : content.toList.head? ≠ some '\ufeff')
    (related : Padded content.toList padded.toList) (optional : mark = "" ∨ mark = "\ufeff") :
    (analyze path base (mark ++ padded)).calls = (analyze path base content).calls ∧
    (analyze path base (mark ++ padded)).inventory =
      { (analyze path base content).inventory with
        sizeBytes := (mark ++ padded).utf8ByteSize
        tokenEstimate := estimateTokens (mark ++ padded).utf8ByteSize } := by
  have source : dropByteOrderMark (mark ++ padded).toList = padded.toList := by
    rw [String.toList_append]
    rcases optional with rfl | rfl
    · exact dropByteOrderMark_of_head? (related.head? unmarked)
    · rfl
  have plain : dropByteOrderMark content.toList = content.toList :=
    dropByteOrderMark_of_head? unmarked
  apply analyze_of_trimmed
  · rw [sourceLines, sourceLines, source, plain, lines_trimmed, lines_trimmed, related.pieces]
  · rw [source, plain, related.imports]

theorem analyze_padded_returns :
    (analyze "a.py" "" ("\ufeff" ++ "import os\r\ndef f(): g()\u3000")).calls.map (·.line) =
      [2, 2] ∧
    (analyze "a.py" "" ("\ufeff" ++ "import os\r\ndef f(): g()\u3000")).inventory.imports =
      ["os"] := by
  have related : Padded "import os\ndef f(): g()".toList "import os\r\ndef f(): g()\u3000".toList :=
    .terminated "import os".toList "\r".toList (by decide) (by decide) (by decide)
      (.unterminated "def f(): g()".toList "\u3000".toList (by decide) (by decide) (by decide)
        (by decide))
  obtain ⟨calls, inventory⟩ := analyze_padded "a.py" "" (by decide) related (.inr rfl)
  rw [calls, inventory]
  decide +kernel

end Outline
