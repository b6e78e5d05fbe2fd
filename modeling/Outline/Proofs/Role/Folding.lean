import Outline.Proofs.PathText
import Outline.Proofs.Text.Lower
import Outline.Role.Rules

namespace Outline

open Outline.PathText Outline.Text

/-- Two inventories name the same file, up to the case of ASCII letters and the kind of slashes. -/
structure Inventory.SameFile (a b : Inventory) : Prop where
  path : foldCase (normalize a.path.toList) = foldCase (normalize b.path.toList)
  relativePath :
    foldCase (normalize a.relativePath.toList) = foldCase (normalize b.relativePath.toList)
  fileName : foldCase a.fileName.toList = foldCase b.fileName.toList

def Container.foldedBase? (t : Container) : Option (List Char) :=
  t.baseType.map fun base => foldCase base.toList

/-- The containers of two inventories have, one by one, the same bases up to the case of ASCII
letters. -/
def Inventory.SameBases (a b : Inventory) : Prop :=
  a.types.map Container.foldedBase? = b.types.map Container.foldedBase?

namespace Role

theorem fileStem_foldCase (path : List Char) :
    fileStem (foldCase path) = foldCase (fileStem path) :=
  fileStem_map (toLower_congr (by decide)) (toLower_congr (f := (· == '.')) (by decide)) path

theorem lower_fileStem_congr {name other : List Char} (same : foldCase name = foldCase other) :
    lower (fileStem name) = lower (fileStem other) := by
  apply lower_congr
  rw [← fileStem_foldCase, same, fileStem_foldCase]

theorem dirsOf_congr {path other : List Char}
    (same : foldCase (normalize path) = foldCase (normalize other)) :
    dirsOf path = dirsOf other := by
  unfold dirsOf
  rw [lower_congr same]

theorem isEmpty_congr {path other : List Char}
    (same : foldCase (normalize path) = foldCase (normalize other)) :
    path.isEmpty = other.isEmpty := by
  have lengths := congrArg List.length same
  simp only [foldCase, List.length_map, length_normalize] at lengths
  rw [Bool.eq_iff_iff, List.isEmpty_iff_length_eq_zero, List.isEmpty_iff_length_eq_zero, lengths]

theorem Facts.of_congr {path other relativePath beside name also : List Char}
    (paths : foldCase (normalize path) = foldCase (normalize other))
    (relativePaths : foldCase (normalize relativePath) = foldCase (normalize beside))
    (names : foldCase name = foldCase also) (bases others : List (List Char)) :
    Facts.of path relativePath name bases =
      { Facts.of other beside also others with baseTypes := bases.map lower } := by
  have dirs : dirsOf (if relativePath.isEmpty then path else relativePath) =
      dirsOf (if beside.isEmpty then other else beside) := by
    rw [isEmpty_congr relativePaths]
    split
    · exact dirsOf_congr paths
    · exact dirsOf_congr relativePaths
  simp only [Facts.of, lower_congr names, lower_fileStem_congr names, dirs]

theorem Facts.of_normalize (path relativePath name : List Char) (bases : List (List Char)) :
    Facts.of (normalize path) (normalize relativePath) name bases =
      Facts.of path relativePath name bases :=
  Facts.of_congr (by rw [normalize_normalize]) (by rw [normalize_normalize]) rfl bases bases

theorem Facts.ofInventory_of_sameFile {a b : Inventory} (same : a.SameFile b) :
    Facts.ofInventory a =
      { Facts.ofInventory b with baseTypes := (Facts.ofInventory a).baseTypes } :=
  Facts.of_congr same.path same.relativePath same.fileName _ _

theorem Facts.baseTypes_ofInventory (inventory : Inventory) :
    (Facts.ofInventory inventory).baseTypes =
      ((inventory.types.map Container.foldedBase?).filterMap id).map lower := by
  simp only [Facts.ofInventory, Facts.of, Container.foldedBase?, List.filterMap_map,
    List.map_filterMap, Function.comp_def, id, Option.map_map, lower_foldCase]

theorem ofInventory_congr {a b : Inventory} (same : a.SameFile b) (bases : a.SameBases b) :
    ofInventory a = ofInventory b := by
  have baseTypes : (Facts.ofInventory a).baseTypes = (Facts.ofInventory b).baseTypes := by
    rw [Facts.baseTypes_ofInventory, Facts.baseTypes_ofInventory, bases]
  unfold ofInventory
  rw [Facts.ofInventory_of_sameFile same, baseTypes]

theorem Rule.fits_withBases (facts : Facts) (bases : List (List Char)) (rule : Rule) :
    rule.fits { facts with baseTypes := bases } = rule.fits facts := by
  have signs : Sign.fits { facts with baseTypes := bases } = Sign.fits facts := by
    funext sign
    cases sign <;> rfl
  unfold Rule.fits
  rw [signs]

theorem ofFacts_withBases {facts : Facts} (bases : List (List Char)) {rule : Rule}
    (listed : rule ∈ rules) (fits : rule.fits facts = true) :
    ofFacts { facts with baseTypes := bases } = ofFacts facts := by
  have found : (rules.find? (·.fits facts)).isSome = true := by
    rw [List.find?_isSome]
    exact ⟨rule, listed, fits⟩
  obtain ⟨first, same⟩ := Option.isSome_iff_exists.mp found
  simp only [ofFacts, Rule.fits_withBases, same]

theorem mem_of_ofBase? {base : List Char} {role : Role} (found : ofBase? base = some role) :
    role ∈ [Role.view, .model, .test] := by
  obtain ⟨hint, first, rfl⟩ := Option.map_eq_some_iff.mp found
  have listed := List.mem_of_find?_eq_some first
  exact List.mem_map_of_mem (f := Prod.snd) listed

theorem ofFacts_of_no_rule {facts : Facts} (unfit : ∀ rule ∈ rules, rule.fits facts = false) :
    ofFacts facts ∈ [Role.unknown, .view, .model, .test] := by
  have none : rules.find? (·.fits facts) = none := by
    rw [List.find?_eq_none]
    intro rule listed
    simp [unfit rule listed]
  unfold ofFacts
  rw [none]
  cases found : facts.baseTypes.findSome? ofBase? with
  | none => exact List.mem_cons_self
  | some role =>
    obtain ⟨base, -, points⟩ := List.exists_of_findSome?_eq_some found
    exact List.mem_cons_of_mem _ (mem_of_ofBase? points)

end Role

theorem role_ignores_case_and_slashes {a b : Inventory} (same : a.SameFile b) :
    (a.SameBases b → Role.ofInventory a = Role.ofInventory b) ∧
    (∀ rule : Role.Rule,
      rule.fits (Role.Facts.ofInventory a) = rule.fits (Role.Facts.ofInventory b)) ∧
    (Role.ofInventory a ≠ Role.ofInventory b →
      ∀ rule ∈ Role.rules, rule.fits (Role.Facts.ofInventory a) = false) ∧
    ((∀ rule ∈ Role.rules, rule.fits (Role.Facts.ofInventory a) = false) →
      Role.ofInventory a ∈ [Role.unknown, .view, .model, .test] ∧
      Role.ofInventory b ∈ [Role.unknown, .view, .model, .test]) := by
  have facts := Role.Facts.ofInventory_of_sameFile same
  have fits : ∀ rule : Role.Rule,
      rule.fits (Role.Facts.ofInventory a) = rule.fits (Role.Facts.ofInventory b) := by
    intro rule
    rw [facts, Role.Rule.fits_withBases]
  refine ⟨Role.ofInventory_congr same, fits, ?_, ?_⟩
  · intro differ rule listed
    rw [← Bool.not_eq_true, fits]
    intro decides
    apply differ
    unfold Role.ofInventory
    rw [facts]
    exact Role.ofFacts_withBases _ listed decides
  · intro unfit
    have also : ∀ rule ∈ Role.rules, rule.fits (Role.Facts.ofInventory b) = false := by
      intro rule listed
      rw [← fits]
      exact unfit rule listed
    exact ⟨Role.ofFacts_of_no_rule unfit, Role.ofFacts_of_no_rule also⟩

def classesIn (path fileName : String) (bases : List (Option String)) : Inventory where
  path
  relativePath := path
  fileName
  sizeBytes := 0
  tokenEstimate := 0
  types := bases.map fun baseType =>
    { name := "A"
      fullName := "A"
      kind := .classKind
      baseType
      interfaces := []
      startLine := 1
      endLine := 1
      docstring := none
      members := [] }
  imports := []
  dependencies := []
  role := .unknown

/-- Capital sigmas at the end of a word and inside one, and a letter whose lower case is two. -/
theorem role_ignores_case_and_slashes_sigmas :
    Role.ofInventory (classesIn "Shop\\ΟΔΟΣ\\ΣAΣ.PY" "ΣAΣ.PY" [none, some "ΣİListView"]) = .view ∧
    Role.ofInventory (classesIn "shop/ΟΔΟΣ\\ΣaΣ.py" "ΣaΣ.py" [none, some "ΣİLISTVIEW"]) = .view ∧
    Role.ofInventory (classesIn "shop/ΟΔΟΣ\\ΣaΣ.py" "ΣaΣ.py" [some "Model"]) ∈
      [Role.unknown, .view, .model, .test] := by
  have paths : foldCase (normalize "Shop\\ΟΔΟΣ\\ΣAΣ.PY".toList) =
      foldCase (normalize "shop/ΟΔΟΣ\\ΣaΣ.py".toList) := by decide +kernel
  have names : foldCase "ΣAΣ.PY".toList = foldCase "ΣaΣ.py".toList := by decide +kernel
  have same : ∀ bases, (classesIn "Shop\\ΟΔΟΣ\\ΣAΣ.PY" "ΣAΣ.PY" [none, some "ΣİListView"]).SameFile
      (classesIn "shop/ΟΔΟΣ\\ΣaΣ.py" "ΣaΣ.py" bases) := fun _ => ⟨paths, paths, names⟩
  have view : Role.ofInventory
      (classesIn "Shop\\ΟΔΟΣ\\ΣAΣ.PY" "ΣAΣ.PY" [none, some "ΣİListView"]) = .view := by
    decide +kernel
  have alike := (role_ignores_case_and_slashes (same [none, some "ΣİLISTVIEW"])).1
    (by unfold Inventory.SameBases; decide +kernel)
  have unruled := (role_ignores_case_and_slashes (same [some "Model"])).2.2.2 (by decide +kernel)
  exact ⟨view, alike ▸ view, unruled.2⟩

end Outline
