import Outline.Proofs.Disk.WellFormed
import Outline.Scan.Basic

namespace Outline.Scan

open Outline.Text

section Walk

variable (disk : Disk) (env : Environment) (root : Path) (top : Location)

abbrev IsIgnored (names : List Name) (isDirectory : Bool) : Prop :=
  Ignore.ignores disk env (pathBelow root names) (top ++ names) isDirectory = true

/-- More names lead from a place below the root to a file, through directories that are entered. -/
inductive Reached : List Name → List Name → ByteArray → Prop where
  | here {names : List Name} {name : Name} {content : ByteArray}
    (found : disk.tree.find? (top ++ (names ++ [name])) = some (.file content))
    (kept : ¬IsIgnored disk env root top (names ++ [name]) false) :
    Reached names [name] content
  | inside {names rest : List Name} {name : Name} {content : ByteArray}
    (found : disk.tree.find? (top ++ (names ++ [name])) = some .directory)
    (entered : isSkipped name = false)
    (kept : ¬IsIgnored disk env root top (names ++ [name]) true)
    (further : Reached (names ++ [name]) rest content) :
    Reached names (name :: rest) content

variable {disk env root top} {names rest : List Name} {content : ByteArray}

theorem Reached.ne_nil (reached : Reached disk env root top names rest content) : rest ≠ [] := by
  cases reached <;> simp

theorem Reached.found (reached : Reached disk env root top names rest content) :
    disk.tree.find? (top ++ (names ++ rest)) = some (.file content) := by
  induction reached with
  | here found => exact found
  | inside _ _ _ _ ih => rwa [List.append_assoc] at ih

theorem Reached.entered (reached : Reached disk env root top names rest content) :
    ∀ name ∈ rest.dropLast, isSkipped name = false := by
  induction reached with
  | here => simp
  | inside _ entered _ further ih =>
    rw [List.dropLast_cons_of_ne_nil further.ne_nil]
    intro name member
    rcases List.mem_cons.mp member with rfl | later
    · exact entered
    · exact ih name later

section Visit

variable {enter : List Name → List (List Name × ByteArray)} {name : Name} {entry : Entry}
  {found : List Name × ByteArray}

theorem mem_visit :
    found ∈ visit disk env root top enter names (name, entry) ↔
      (∃ content, entry = .file content ∧ ¬IsIgnored disk env root top (names ++ [name]) false ∧
        found = (names ++ [name], content)) ∨
      (entry = .directory ∧ isSkipped name = false ∧
        ¬IsIgnored disk env root top (names ++ [name]) true ∧ found ∈ enter (names ++ [name])) := by
  cases entry with
  | file content =>
    by_cases ignored : IsIgnored disk env root top (names ++ [name]) false
    · simp [visit, ignored]
    · simp [visit, ignored]
  | directory =>
    by_cases ignored : IsIgnored disk env root top (names ++ [name]) true
    · simp [visit, ignored]
    · cases skipped : isSkipped name
      · simp [visit, ignored, skipped]
      · simp [visit, skipped]

theorem starts_of_mem_visit (starts : ∀ place, ∀ f ∈ enter place, place <+: f.1)
    (member : found ∈ visit disk env root top enter names (name, entry)) :
    names ++ [name] <+: found.1 := by
  rcases mem_visit.mp member with ⟨content, -, -, rfl⟩ | ⟨-, -, -, inner⟩
  · exact List.prefix_rfl
  · exact starts _ _ inner

theorem pairwise_visit (once : ∀ place, (enter place).Pairwise fun a b => a.1 ≠ b.1) :
    (visit disk env root top enter names (name, entry)).Pairwise fun a b => a.1 ≠ b.1 := by
  cases entry with
  | file content =>
    dsimp only [visit]
    split
    · exact .nil
    · exact List.pairwise_singleton _ _
  | directory =>
    dsimp only [visit]
    split
    · exact .nil
    · exact once (names ++ [name])

end Visit

theorem mem_walk {depth : Nat} {place : List Name} :
    (place, content) ∈ walk disk env root top depth names ↔ ∃ rest, place = names ++ rest ∧
      rest.length ≤ depth ∧ Reached disk env root top names rest content := by
  induction depth generalizing names with
  | zero =>
    rw [walk]
    constructor
    · intro member
      cases member
    · rintro ⟨rest, -, short, reached⟩
      exact absurd (List.eq_nil_of_length_eq_zero (Nat.le_zero.mp short)) reached.ne_nil
  | succ depth ih =>
    rw [walk, List.mem_flatMap]
    constructor
    · rintro ⟨⟨name, entry⟩, child, member⟩
      have there := FileTree.mem_children.mp child
      rw [List.append_assoc] at there
      rcases mem_visit.mp member with ⟨content, rfl, kept, same⟩ | ⟨rfl, entered, kept, inner⟩
      · cases same
        exact ⟨[name], rfl, by simp, .here there kept⟩
      · obtain ⟨rest, rfl, short, reached⟩ := ih.mp inner
        refine ⟨name :: rest, by simp, ?_, .inside there entered kept reached⟩
        rw [List.length_cons]
        omega
    · rintro ⟨rest, rfl, short, reached⟩
      cases reached with
      | @here _ name _ there kept =>
        rw [← List.append_assoc] at there
        exact ⟨_, FileTree.mem_children.mpr there, mem_visit.mpr (.inl ⟨content, rfl, kept, rfl⟩)⟩
      | @inside _ rest name _ there entered kept further =>
        rw [← List.append_assoc] at there
        rw [List.length_cons] at short
        have inner := ih.mpr ⟨rest, by simp, by omega, further⟩
        exact ⟨_, FileTree.mem_children.mpr there, mem_visit.mpr (.inr ⟨rfl, entered, kept, inner⟩)⟩

theorem starts_of_mem_walk {depth : Nat} {found : List Name × ByteArray}
    (member : found ∈ walk disk env root top depth names) : names <+: found.1 := by
  obtain ⟨rest, whole, -⟩ := mem_walk.mp member
  exact ⟨rest, whole.symm⟩

theorem pairwise_walk (depth : Nat) (names : List Name) :
    (walk disk env root top depth names).Pairwise fun a b => a.1 ≠ b.1 := by
  induction depth generalizing names with
  | zero => exact .nil
  | succ depth ih =>
    rw [walk, List.pairwise_flatMap]
    refine ⟨fun child _ => pairwise_visit ih, ?_⟩
    -- What lies at two children differs in the name of the child.
    refine (disk.tree.pairwise_children (top ++ names)).imp ?_
    rintro ⟨name, entry⟩ ⟨other, held⟩ apart a first b second same
    have one := starts_of_mem_visit (fun _ _ => starts_of_mem_walk) first
    have two := starts_of_mem_visit (fun _ _ => starts_of_mem_walk) second
    rw [← same] at two
    have equal := (List.prefix_of_prefix_length_le one two (by simp)).eq_of_length (by simp)
    exact apart (by simpa using equal)

theorem mem_walk_iff_reached :
    (names, content) ∈ walk disk env root top disk.tree.depth [] ↔
      Reached disk env root top [] names content := by
  -- The depth of the tree is enough fuel for every place that is reached.
  rw [mem_walk]
  constructor
  · rintro ⟨rest, rfl, -, reached⟩
    exact reached
  · intro reached
    have deep := FileTree.length_le_depth reached.found
    rw [List.nil_append, List.length_append] at deep
    exact ⟨names, rfl, by omega, reached⟩

end Walk

section Files

variable {disk : Disk} {env : Environment} {root : Path} {top : Location}
  {settings : ScanSettings}

theorem mem_filesBelow {names : List Name} {size : Nat} :
    (names, size) ∈ filesBelow disk env root top settings ↔ ∃ content,
      Reached disk env root top [] names content ∧ disk.isFile (pathBelow root names) = true ∧
      isWanted settings (names.getLastD []) names content = true ∧ content.size = size := by
  unfold filesBelow
  rw [List.mem_filterMap]
  constructor
  · rintro ⟨⟨place, content⟩, member, kept⟩
    dsimp only at kept
    split at kept
    · rename_i wanted
      cases kept
      rw [Bool.and_eq_true] at wanted
      exact ⟨content, mem_walk_iff_reached.mp member, wanted.1, wanted.2, rfl⟩
    · cases kept
  · rintro ⟨content, reached, file, wanted, rfl⟩
    refine ⟨(names, content), mem_walk_iff_reached.mpr reached, ?_⟩
    dsimp only
    rw [if_pos (by rw [file, wanted]; rfl)]

theorem pairwise_filesBelow :
    (filesBelow disk env root top settings).Pairwise fun a b => a.1 ≠ b.1 := by
  unfold filesBelow
  rw [List.pairwise_filterMap]
  refine (pairwise_walk disk.tree.depth []).imp ?_
  rintro ⟨names, content⟩ ⟨others, held⟩ apart a first b second
  dsimp only at first second
  split at first
  · split at second
    · cases first
      cases second
      exact apart
    · cases second
  · cases first

theorem scan_eq (env : Environment) (settings : ScanSettings)
    (located : disk.locate root = .ok top) (directory : disk.isDirectory root = true) :
    scan disk env root settings = .ok (if isStandardInput root then [] else
      ((filesBelow disk env root top settings).mergeSort comesBefore).map fun (names, size) =>
        { path := pathBelow root names, size }) := by
  unfold scan
  rw [Disk.entry_of_isDirectory directory, located]
  dsimp only
  split <;> rfl

theorem of_mem_scan {files : List ScannedFile} {file : ScannedFile}
    (located : disk.locate root = .ok top) (directory : disk.isDirectory root = true)
    (scanned : scan disk env root settings = .ok files) (member : file ∈ files) :
    ∃ names, (names, file.size) ∈ filesBelow disk env root top settings ∧
      file.path = pathBelow root names := by
  rw [scan_eq env settings located directory] at scanned
  cases scanned
  split at member
  · cases member
  · obtain ⟨⟨names, size⟩, sorted, rfl⟩ := List.mem_map.mp member
    exact ⟨names, (List.mergeSort_perm _ _).mem_iff.mp sorted, rfl⟩

theorem isFile_of_mem_scan {files : List ScannedFile} {file : ScannedFile}
    (located : disk.locate root = .ok top) (directory : disk.isDirectory root = true)
    (scanned : scan disk env root settings = .ok files) (member : file ∈ files) :
    disk.isFile file.path = true := by
  obtain ⟨names, listed, path⟩ := of_mem_scan located directory scanned member
  obtain ⟨content, -, found, -⟩ := mem_filesBelow.mp listed
  rwa [path]

end Files

/-- No ignore file that is in effect at a place has a rule. The files of a repository are in effect
inside of it, and those of the user inside of any. -/
structure Unruled (disk : Disk) (env : Environment) (location : Location) : Prop where
  own : ∀ directory ∈ Location.above location,
    Ignore.rulesIn disk.tree ".pyweaveignore" directory = []
  shared : ∀ directory ∈ Location.above location, Ignore.rulesIn disk.tree ".ignore" directory = []
  repository : ∀ directory ∈ Ignore.insideRepository disk.tree (Location.above location),
    Ignore.rulesIn disk.tree ".gitignore" directory = [] ∧
      Ignore.repositoryRules disk directory = []
  user : Ignore.insideRepository disk.tree (Location.above location) ≠ [] →
    Ignore.userRules disk env = []

theorem closestVerdict?_eq_none {rules : Location → List Ignore.Rule} {directories : List Location}
    (none : ∀ directory ∈ directories, rules directory = []) (location : Location)
    (isDirectory : Bool) :
    Ignore.closestVerdict? rules directories location isDirectory = .none := by
  unfold Ignore.closestVerdict?
  rw [List.findSome?_eq_none_iff]
  intro directory member
  rw [none directory member]
  rfl

theorem not_ignores_of_unruled {disk : Disk} {env : Environment} {location : Location}
    (unruled : Unruled disk env location) (path : Path) (isDirectory : Bool) :
    Ignore.ignores disk env path location isDirectory = false := by
  have git := closestVerdict?_eq_none (fun d member => (unruled.repository d member).1) location
    isDirectory
  have exclude := closestVerdict?_eq_none (fun d member => (unruled.repository d member).2) location
    isDirectory
  unfold Ignore.ignores
  dsimp only
  rw [closestVerdict?_eq_none unruled.own, closestVerdict?_eq_none unruled.shared, git, exclude]
  by_cases inside : Ignore.insideRepository disk.tree (Location.above location) = []
  · simp [inside]
  · rw [unruled.user inside]
    simp [Ignore.verdict?]

theorem reached_of_find? {disk : Disk} {env : Environment} {root : Path} {top : Location}
    {names rest : List Name} {content : ByteArray} (wellFormed : disk.tree.WellFormed)
    (unruled : ∀ names, Unruled disk env (top ++ names)) (further : rest ≠ [])
    (found : disk.tree.find? (top ++ (names ++ rest)) = some (.file content))
    (entered : ∀ name ∈ rest.dropLast, isSkipped name = false) :
    Reached disk env root top names rest content := by
  have kept : ∀ place isDirectory, ¬IsIgnored disk env root top place isDirectory := by
    intro place isDirectory
    simp [not_ignores_of_unruled (unruled place)]
  induction rest generalizing names with
  | nil => exact absurd rfl further
  | cons name rest ih =>
    by_cases last : rest = []
    · subst last
      exact .here found (kept _ _)
    · rw [List.dropLast_cons_of_ne_nil last] at entered
      rw [List.append_cons] at found
      have directory : disk.tree.find? (top ++ (names ++ [name])) = some .directory := by
        rw [← List.append_assoc] at found
        exact wellFormed.directory_above last found
      refine .inside directory (entered name (by simp)) (kept _ _) (ih last found ?_)
      intro other member
      exact entered other (List.mem_cons_of_mem name member)

end Outline.Scan
