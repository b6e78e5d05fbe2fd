import Mathlib.Data.List.TakeDrop
import Mathlib.Data.List.TakeWhile
import Outline.Proofs.Scan.Order
import Outline.Proofs.Scan.Walk
import Outline.Proofs.Workspace.Split

namespace Outline

open Outline.Text

structure Name.EndsIn (name extension : Name) : Prop where
  noDot : Path.dot ∉ extension
  split : ∃ stem, stem ≠ [] ∧ name = stem ++ Path.dot :: extension

theorem Name.EndsIn.reverse {name extension : Name} (ends : name.EndsIn extension) :
    ∃ b rest, name.reverse = extension.reverse ++ Path.dot :: b :: rest := by
  obtain ⟨stem, filled, rfl⟩ := ends.split
  obtain ⟨b, rest, parts⟩ := List.exists_cons_of_ne_nil (List.reverse_ne_nil_iff.mpr filled)
  exact ⟨b, rest, by simp [← parts]⟩

theorem Name.extension?_eq_some_iff {name extension : Name} :
    name.extension? = some extension ↔ name.EndsIn extension := by
  have whole := List.takeWhile_append_dropWhile (p := (· != Path.dot)) (l := name.reverse)
  unfold Name.extension?
  rw [List.span_eq_takeWhile_dropWhile]
  constructor
  · intro found
    split at found
    · cases found
    · cases found
    · rename_i behind d b rest same
      cases found
      obtain ⟨front, back⟩ := Prod.mk.inj same
      have dotted : d = Path.dot := by
        have more : name.reverse.dropWhile (· != Path.dot) ≠ [] := by simp [back]
        have first := List.head_dropWhile_not (· != Path.dot) more
        simpa [back] using first
      rw [front, back, dotted] at whole
      refine ⟨?_, (b :: rest).reverse, by simp, ?_⟩
      · intro inside
        rw [← front, List.mem_reverse] at inside
        simpa using List.mem_takeWhile_imp inside
      · rw [← name.reverse_reverse, ← whole]
        simp
  · intro ends
    obtain ⟨b, rest, parts⟩ := ends.reverse
    have plain : ∀ c ∈ extension.reverse, (c != Path.dot) = true := by
      intro c member
      simpa using ne_of_mem_of_not_mem (List.mem_reverse.mp member) ends.noDot
    rw [parts, List.takeWhile_append_of_pos plain, List.dropWhile_append_of_pos plain]
    simp

namespace Scan

/-- A file below `top` that settings ask for, from its name and those of the directories between. -/
structure Listed (tree : FileTree) (top : Location) (settings : AnalysisSettings)
    (between : List Name) (last : Name) (content : ByteArray) : Prop where
  file : tree.find? (top ++ (between ++ [last])) = some (.file content)
  entered : ∀ skipped ∈ skippedDirectories, bytesOf skipped ∉ between
  extension : ∃ given ∈ settings.extensions, last.EndsIn (bytesOf (plainExtension given))
  included : ∀ text ∈ settings.exclude, ∀ pattern, Exclude.Pattern.parse text = .ok pattern →
    pattern.fits (relativeText (between ++ [last])) = false
  small : content.size ≤ settings.maxFileSize

theorem isSkipped_eq_false {name : Name} :
    isSkipped name = false ↔ ∀ skipped ∈ skippedDirectories, bytesOf skipped ≠ name := by
  unfold isSkipped
  rw [List.any_eq_false]
  simp only [beq_iff_eq, ne_eq]

theorem hasExtension_iff {extensions : List String} {name : Name} :
    hasExtension (extensions.map plainExtension) name = true ↔
      ∃ given ∈ extensions, name.EndsIn (bytesOf (plainExtension given)) := by
  unfold hasExtension
  simp only [← Name.extension?_eq_some_iff]
  cases name.extension? with
  | none => simp
  | some extension =>
    dsimp only
    rw [List.any_map, List.any_eq_true]
    simp only [Function.comp_apply, beq_iff_eq, Option.some.injEq]
    exact exists_congr fun given => and_congr_right fun _ => eq_comm

theorem mem_patterns {texts : List String} {patterns : List Exclude.Pattern}
    (read : Scan.patterns texts = .ok patterns) {pattern : Exclude.Pattern} :
    pattern ∈ patterns ↔ ∃ text ∈ texts, Exclude.Pattern.parse text = .ok pattern := by
  unfold Scan.patterns at read
  induction texts generalizing patterns with
  | nil =>
    cases read
    simp
  | cons text texts ih =>
    rw [List.mapM_cons] at read
    obtain ⟨first, parsed, read⟩ := bind_eq_ok read
    obtain ⟨others, later, read⟩ := bind_eq_ok read
    cases read
    have same : Exclude.Pattern.parse text = .ok first := by
      split at parsed
      · rename_i found
        cases parsed
        exact found
      · cases parsed
    rw [List.mem_cons, ih later]
    simp [same, eq_comm]

theorem isWanted_iff {config : Config} {settings : ScanSettings}
    (usable : config.scanSettings = .ok settings) {last : Name} {names : List Name}
    {content : ByteArray} :
    isWanted settings last names content = true ↔
      (∃ given ∈ config.analysis.extensions, last.EndsIn (bytesOf (plainExtension given))) ∧
      (∀ text ∈ config.analysis.exclude, ∀ pattern, Exclude.Pattern.parse text = .ok pattern →
        pattern.fits (relativeText names) = false) ∧
      content.size ≤ config.analysis.maxFileSize := by
  unfold Config.scanSettings at usable
  obtain ⟨patterns, read, usable⟩ := bind_eq_ok usable
  cases usable
  unfold isWanted isExcluded
  rw [Bool.and_eq_true, Bool.and_eq_true, hasExtension_iff, Bool.not_eq_true', List.any_eq_false,
    decide_eq_true_eq, and_assoc]
  refine and_congr_right fun _ => and_congr_left fun _ => ?_
  constructor
  · intro included text given pattern parsed
    simpa using included pattern ((mem_patterns read).mpr ⟨text, given, parsed⟩)
  · intro included pattern member
    obtain ⟨text, given, parsed⟩ := (mem_patterns read).mp member
    simp [included text given pattern parsed]

section Below

variable {disk : Disk} {root : Path} {top : Location} {names : List Name} {entry : Entry}

theorem zero_notMem_pathBelow (filled : root.bytes ≠ []) (noZero : (0 : UInt8) ∉ root.bytes)
    (plain : ∀ name ∈ names, name.IsPlain) : (0 : UInt8) ∉ (pathBelow root names).bytes := by
  induction names using List.reverseRecOn with
  | nil => exact noZero
  | append_singleton names name ih =>
    have before : ∀ n ∈ names, n.IsPlain := fun n member => plain n (by simp [member])
    have last := plain name (by simp)
    rw [pathBelow_concat,
      Path.mem_join (pathBelow_ne_nil filled before) last.noSlash (by decide), not_or]
    exact ⟨ih before, last.noZero⟩

theorem locate_pathBelow (wellFormed : disk.tree.WellFormed) (located : disk.locate root = .ok top)
    (found : disk.tree.find? (top ++ names) = some entry)
    (faultless : Disk.pathFault? (pathBelow root names) = none) :
    disk.locate (pathBelow root names) = .ok (top ++ names) := by
  have filled := (Disk.pathFault?_eq_none.mp (Disk.locate_ok located).1).2.1
  induction names using List.reverseRecOn generalizing entry with
  | nil => rwa [List.append_nil]
  | append_singleton names name ih =>
    have plain := wellFormed.plain_of_mem found
    have last := plain name (by simp)
    have earlier : ∀ n ∈ names, n.IsPlain := fun n member => plain n (by simp [member])
    have nonempty := pathBelow_ne_nil filled earlier
    rw [← List.append_assoc] at found
    have directory := wellFormed.parent found
    rw [pathBelow_concat] at faultless ⊢
    have before := ih directory (Disk.pathFault?_of_join nonempty last faultless)
    rw [Disk.locate_join nonempty last faultless, before]
    exact (Disk.step_of_isPlain last directory).trans (by rw [List.append_assoc])

theorem isFile_pathBelow {content : ByteArray} (wellFormed : disk.tree.WellFormed)
    (located : disk.locate root = .ok top)
    (found : disk.tree.find? (top ++ names) = some (.file content)) :
    disk.isFile (pathBelow root names) = true ↔
      (pathBelow root names).bytes.length < Disk.maxPathLength := by
  refine ⟨Disk.length_lt_of_isFile, fun short => ?_⟩
  obtain ⟨noZero, filled, -⟩ := Disk.pathFault?_eq_none.mp (Disk.locate_ok located).1
  have plain := wellFormed.plain_of_mem found
  have faultless := Disk.pathFault?_eq_none.mpr
    ⟨zero_notMem_pathBelow filled noZero plain, pathBelow_ne_nil filled plain, short⟩
  have leads := locate_pathBelow wellFormed located found faultless
  rw [Disk.isFile, Disk.entry_of_locate leads found]

end Below

section Files

variable {disk : Disk} {env : Environment} {root : Path} {top : Location}
  {settings : ScanSettings}

theorem plain_of_mem_filesBelow (wellFormed : disk.tree.WellFormed) {file : List Name × Nat}
    (member : file ∈ filesBelow disk env root top settings) : ∀ name ∈ file.1, name.IsPlain := by
  obtain ⟨content, reached, -⟩ := mem_filesBelow.mp member
  exact wellFormed.plain_of_mem reached.found

theorem listed_of_mem_filesBelow {config : Config} (usable : config.scanSettings = .ok settings)
    {names : List Name} {size : Nat}
    (member : (names, size) ∈ filesBelow disk env root top settings) :
    ∃ between last content, names = between ++ [last] ∧ size = content.size ∧
      Listed disk.tree top config.analysis between last content := by
  obtain ⟨content, reached, -, wanted, rfl⟩ := mem_filesBelow.mp member
  obtain ⟨between, last, rfl⟩ := (List.eq_nil_or_concat' names).resolve_left reached.ne_nil
  rw [List.getLastD_concat] at wanted
  obtain ⟨extension, included, small⟩ := (isWanted_iff usable).mp wanted
  refine ⟨between, last, content, rfl, rfl, reached.found, ?_, extension, included, small⟩
  intro skipped reserved inside
  have entered := reached.entered
  rw [List.dropLast_concat] at entered
  exact isSkipped_eq_false.mp (entered _ inside) skipped reserved rfl

theorem mem_filesBelow_of_listed {config : Config} (usable : config.scanSettings = .ok settings)
    (wellFormed : disk.tree.WellFormed) (located : disk.locate root = .ok top)
    (unruled : ∀ names, Unruled disk env (top ++ names)) {between : List Name} {last : Name}
    {content : ByteArray} (listed : Listed disk.tree top config.analysis between last content)
    (short : (pathBelow root (between ++ [last])).bytes.length < Disk.maxPathLength) :
    (between ++ [last], content.size) ∈ filesBelow disk env root top settings := by
  refine mem_filesBelow.mpr ⟨content, ?_, ?_, ?_, rfl⟩
  · refine reached_of_find? wellFormed unruled (by simp) listed.file ?_
    intro name member
    rw [List.dropLast_concat] at member
    refine isSkipped_eq_false.mpr fun skipped reserved same => ?_
    rw [← same] at member
    exact listed.entered skipped reserved member
  · exact (isFile_pathBelow wellFormed located listed.file).mpr short
  · rw [List.getLastD_concat]
    exact (isWanted_iff usable).mpr ⟨listed.extension, listed.included, listed.small⟩

theorem pairwise_of_scan {files : List ScannedFile} (wellFormed : disk.tree.WellFormed)
    (located : disk.locate root = .ok top) (directory : disk.isDirectory root = true)
    (scanned : scan disk env root settings = .ok files) :
    files.Pairwise fun a b => a.path.Precedes b.path := by
  have filled := (Disk.pathFault?_eq_none.mp (Disk.locate_ok located).1).2.1
  rw [scan_eq env settings located directory] at scanned
  cases scanned
  split
  · exact .nil
  · rw [List.pairwise_map]
    refine (pairwise_lt_mergeSort pairwise_filesBelow).imp_of_mem ?_
    intro a b first second before
    rw [(List.mergeSort_perm _ _).mem_iff] at first second
    exact precedes_pathBelow filled (plain_of_mem_filesBelow wellFormed first)
      (plain_of_mem_filesBelow wellFormed second) before

end Files

end Scan

/-- A scan of a directory lists files in the strict order of their paths, each with its size, and
only such as settings ask for. Without ignore files it lists all of them whose path is not too long,
unless the root stands for the standard input. -/
theorem scan_lists {disk : Disk} {root : Path} {top : Location} {config : Config}
    {settings : ScanSettings} (env : Environment) (wellFormed : disk.tree.WellFormed)
    (located : disk.locate root = .ok top) (directory : disk.isDirectory root = true)
    (usable : config.scanSettings = .ok settings) :
    ∃ files, scan disk env root settings = .ok files ∧
      files.Pairwise (fun a b => a.path.Precedes b.path) ∧ (files.map (·.path)).Nodup ∧
      (∀ file ∈ files, ∃ between last content,
        Scan.Listed disk.tree top config.analysis between last content ∧
        file = ⟨Scan.pathBelow root (between ++ [last]), content.size⟩ ∧
        file.path.bytes.length < Disk.maxPathLength) ∧
      (Scan.isStandardInput root = false → (∀ names, Scan.Unruled disk env (top ++ names)) →
        ∀ between last content, Scan.Listed disk.tree top config.analysis between last content →
          (Scan.pathBelow root (between ++ [last])).bytes.length < Disk.maxPathLength →
          ⟨Scan.pathBelow root (between ++ [last]), content.size⟩ ∈ files) := by
  have scanned := Scan.scan_eq env settings located directory
  have ordered := Scan.pairwise_of_scan wellFormed located directory scanned
  refine ⟨_, scanned, ordered, ?_, ?_, ?_⟩
  · exact List.pairwise_map.mpr (ordered.imp fun before => before.ne)
  · intro file member
    obtain ⟨names, below, path⟩ := Scan.of_mem_scan located directory scanned member
    obtain ⟨between, last, content, rfl, size, listed⟩ :=
      Scan.listed_of_mem_filesBelow usable below
    have same : file = ⟨Scan.pathBelow root (between ++ [last]), content.size⟩ := by
      rw [← path, ← size]
    have opened := Scan.isFile_of_mem_scan located directory scanned member
    exact ⟨between, last, content, listed, same, Disk.length_lt_of_isFile opened⟩
  · intro place unruled between last content listed short
    rw [if_neg (by simp [place])]
    have member :=
      Scan.mem_filesBelow_of_listed usable wellFormed located unruled listed short
    exact List.mem_map.mpr ⟨_, (List.mergeSort_perm _ _).mem_iff.mpr member, rfl⟩

namespace Scan

theorem insideRepository_eq_nil {tree : FileTree} {directories : List Location}
    (none : ∀ directory ∈ directories, Ignore.isRepository tree directory = false) :
    Ignore.insideRepository tree directories = [] := by
  have all : directories.dropWhile (!Ignore.isRepository tree ·) = [] := by
    rw [List.dropWhile_eq_nil_iff]
    intro directory member
    simp [none directory member]
  rw [Ignore.insideRepository, List.span_eq_takeWhile_dropWhile, all]

def sourceIn (directory : String) : Disk where
  tree := (FileTree.empty.put [bytesOf directory] .directory).put
    ([bytesOf directory] ++ [bytesOf "a.py"]) (.file .empty)
  workingDirectory := []

theorem find?_sourceIn {directory : String} {name : Name} (notDirectory : name ≠ bytesOf directory)
    (notFile : name ≠ bytesOf "a.py") (location : Location) :
    (sourceIn directory).tree.find? (location ++ [name]) = none := by
  have notInner : location ++ [name] ≠ [bytesOf directory] ++ [bytesOf "a.py"] := by
    intro same
    exact notFile (by simpa using List.append_inj_right' same rfl)
  have notOuter : location ++ [name] ≠ [] ++ [bytesOf directory] := by
    intro same
    exact notDirectory (by simpa using List.append_inj_right' same rfl)
  rw [sourceIn, FileTree.find?_put_of_ne _ _ _ notInner, ← List.nil_append [bytesOf directory],
    FileTree.find?_put_of_ne _ _ _ notOuter]
  simp [FileTree.find?, FileTree.empty]

theorem wellFormed_sourceIn {directory : String} (plain : Name.IsPlain (bytesOf directory)) :
    (sourceIn directory).tree.WellFormed := by
  have outer : (FileTree.empty.put ([] ++ [bytesOf directory]) .directory).WellFormed :=
    FileTree.wellFormed_empty.put plain rfl (by simp [FileTree.find?, FileTree.empty]) _
  have held : (FileTree.empty.put [bytesOf directory] .directory).find? [bytesOf directory] =
      some .directory := FileTree.find?_put_self _ _ (by simp)
  have free : (FileTree.empty.put [bytesOf directory] .directory).find?
      ([bytesOf directory] ++ [bytesOf "a.py"]) = none := by
    rw [FileTree.find?_put_of_ne _ _ _ (by simp)]
    rfl
  exact outer.put (by decide +kernel) held (by rw [List.nil_append, free]; simp) _

def ignoreNames : List Name :=
  [bytesOf ".pyweaveignore", bytesOf ".ignore", bytesOf ".gitignore", Ignore.gitName]

theorem unruled_sourceIn {directory : String} (other : bytesOf directory ∉ ignoreNames)
    (env : Environment) (location : Location) : Unruled (sourceIn directory) env location := by
  have alsoOther : bytesOf "a.py" ∉ ignoreNames := by decide +kernel
  have nothing : ∀ name ∈ ignoreNames, ∀ above : Location,
      (sourceIn directory).tree.find? (above ++ [name]) = none := by
    intro name member above
    exact find?_sourceIn (ne_of_mem_of_not_mem member other)
      (ne_of_mem_of_not_mem member alsoOther) above
  have noRules : ∀ text : String, bytesOf text ∈ ignoreNames → ∀ above,
      Ignore.rulesIn (sourceIn directory).tree text above = [] := by
    intro text member above
    rw [Ignore.rulesIn, Ignore.rulesAt, nothing _ member]
  have outside : Ignore.insideRepository (sourceIn directory).tree
      (Location.above location) = [] := by
    refine insideRepository_eq_nil fun above _ => ?_
    rw [Ignore.isRepository, nothing _ (by simp [ignoreNames])]
    rfl
  refine ⟨fun above _ => noRules _ (by simp [ignoreNames]) above,
    fun above _ => noRules _ (by simp [ignoreNames]) above, ?_, ?_⟩
  · rw [outside]
    intro above member
    cases member
  · intro inside
    exact absurd outside inside

theorem listed_sourceIn (directory : String) :
    Listed (sourceIn directory).tree [bytesOf directory] Config.default.analysis []
      (bytesOf "a.py") .empty where
  file := FileTree.find?_put_self _ _ (by simp)
  entered := by simp
  extension :=
    ⟨"py", by decide, by decide +kernel, bytesOf "a", by decide +kernel, by decide +kernel⟩
  included := by
    intro text given pattern parsed
    cases List.mem_singleton.mp given
    have outside : (Exclude.Pattern.parse "**/migrations/**").toOption.all
        (fun pattern => !pattern.fits (relativeText [bytesOf "a.py"])) = true := by decide +kernel
    rw [parsed] at outside
    exact (Bool.not_eq_true' _).mp outside
  small := by decide

end Scan

theorem scanSettings_default : ∃ settings, Config.default.scanSettings = .ok settings :=
  Config.scanSettings_of_validate rfl

theorem scan_lists_source :
    (Scan.sourceIn "ws").tree.WellFormed ∧
      (Scan.sourceIn "ws").locate (.ofText "ws") = .ok [bytesOf "ws"] ∧
      (Scan.sourceIn "ws").isDirectory (.ofText "ws") = true ∧
      ∃ settings files, Config.default.scanSettings = .ok settings ∧
        scan (Scan.sourceIn "ws") ⟨[]⟩ (.ofText "ws") settings = .ok files ∧
        ⟨Scan.pathBelow (.ofText "ws") [bytesOf "a.py"], 0⟩ ∈ files := by
  have wellFormed : (Scan.sourceIn "ws").tree.WellFormed :=
    Scan.wellFormed_sourceIn (by decide +kernel)
  have located : (Scan.sourceIn "ws").locate (.ofText "ws") = .ok [bytesOf "ws"] := rfl
  have directory : (Scan.sourceIn "ws").isDirectory (.ofText "ws") = true := by decide +kernel
  obtain ⟨settings, usable⟩ := scanSettings_default
  obtain ⟨files, scanned, -, -, -, all⟩ := scan_lists ⟨[]⟩ wellFormed located directory usable
  refine ⟨wellFormed, located, directory, settings, files, usable, scanned, ?_⟩
  exact all (by decide +kernel) (fun names => Scan.unruled_sourceIn (by decide +kernel) _ _) [] _ _
    (Scan.listed_sourceIn "ws") (by decide +kernel)

namespace Scan

def longRoot : Path := ⟨bytesOf "ws" ++ (List.replicate 2045 [Path.slash, Path.dot]).flatten⟩

theorem locate_longRoot : (sourceIn "ws").locate longRoot = .ok [bytesOf "ws"] := by
  have leads : ((sourceIn "ws").locate longRoot).toOption = some [bytesOf "ws"] := by
    decide +kernel
  cases located : (sourceIn "ws").locate longRoot with
  | error fault =>
    rw [located] at leads
    cases leads
  | ok place =>
    rw [located] at leads
    cases leads
    rfl

theorem isDirectory_longRoot : (sourceIn "ws").isDirectory longRoot = true := by
  rw [Disk.isDirectory, Disk.entry_of_locate locate_longRoot (by rfl)]

theorem source_notMem_scan_longRoot {env : Environment} {settings : ScanSettings}
    {files : List ScannedFile} (scanned : scan (sourceIn "ws") env longRoot settings = .ok files) :
    ⟨pathBelow longRoot [bytesOf "a.py"], 0⟩ ∉ files := by
  have long : (pathBelow longRoot [bytesOf "a.py"]).bytes.length = 4097 := by decide +kernel
  intro member
  have opened := isFile_of_mem_scan locate_longRoot isDirectory_longRoot scanned member
  have short := Disk.length_lt_of_isFile opened
  rw [long] at short
  exact absurd short (by decide)

end Scan

/-- Files that settings ask for can be missing: below a root that is written as a dash, and where
the path is too long. -/
theorem scan_misses_source :
    (∃ settings, Config.default.scanSettings = .ok settings ∧
      (Scan.sourceIn "-").tree.WellFormed ∧
      (Scan.sourceIn "-").locate (.ofText "-") = .ok [bytesOf "-"] ∧
      (∀ names, Scan.Unruled (Scan.sourceIn "-") ⟨[]⟩ ([bytesOf "-"] ++ names)) ∧
      Scan.Listed (Scan.sourceIn "-").tree [bytesOf "-"] Config.default.analysis []
        (bytesOf "a.py") .empty ∧
      scan (Scan.sourceIn "-") ⟨[]⟩ (.ofText "-") settings = .ok []) ∧
    ∃ settings files, Config.default.scanSettings = .ok settings ∧
      (Scan.sourceIn "ws").tree.WellFormed ∧
      (Scan.sourceIn "ws").locate Scan.longRoot = .ok [bytesOf "ws"] ∧
      (∀ names, Scan.Unruled (Scan.sourceIn "ws") ⟨[]⟩ ([bytesOf "ws"] ++ names)) ∧
      Scan.Listed (Scan.sourceIn "ws").tree [bytesOf "ws"] Config.default.analysis []
        (bytesOf "a.py") .empty ∧
      scan (Scan.sourceIn "ws") ⟨[]⟩ Scan.longRoot settings = .ok files ∧
      ⟨Scan.pathBelow Scan.longRoot [bytesOf "a.py"], 0⟩ ∉ files := by
  obtain ⟨settings, usable⟩ := scanSettings_default
  constructor
  · exact ⟨settings, usable, Scan.wellFormed_sourceIn (by decide +kernel), rfl,
      fun names => Scan.unruled_sourceIn (by decide +kernel) _ _, Scan.listed_sourceIn "-", rfl⟩
  · have scanned := Scan.scan_eq ⟨[]⟩ settings Scan.locate_longRoot Scan.isDirectory_longRoot
    exact ⟨settings, _, usable, Scan.wellFormed_sourceIn (by decide +kernel),
      Scan.locate_longRoot, fun names => Scan.unruled_sourceIn (by decide +kernel) _ _,
      Scan.listed_sourceIn "ws", scanned, Scan.source_notMem_scan_longRoot scanned⟩

end Outline
