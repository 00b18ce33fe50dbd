import ContractLint.Proofs.Analysis.Guarding
import ContractLint.Proofs.Analysis.Location
import ContractLint.Proofs.Analysis.Suppression
import ContractLint.Proofs.Command.Saving
import ContractLint.Proofs.Report.Document
import ContractLint.Proofs.Tree.Search

/-!
# Runs over a directory

A run over a directory analyses each Solidity file that a search finds there, and reports the
findings of all files one after the other.  Storing the analyses takes the findings apart again by
their paths.  As different files have different paths, each file gets back exactly its own findings.
-/

namespace ContractLint

/-! ### Analyses of files -/

theorem isSound_of_mem_fileAnalyses {settings : Settings} {window : Int}
    (hwindow : settings.window = some window) {sources : List (Path × Text)}
    {analysis : FileAnalysis} (h : analysis ∈ fileAnalyses settings sources) :
  analysis.IsSound
  := by
  obtain ⟨⟨path, text⟩, -, rfl⟩ := List.mem_map.mp h
  have hplaced : ∀ finding ∈ analyze settings (some path) text,
      ∃ found ∈ textFindings settings text, found.inFile (some path) = finding :=
    fun _ => exists_of_mem_analyze
  refine ⟨?_, ?_, ?_⟩
  · intro finding hfinding
    obtain ⟨found, -, rfl⟩ := hplaced finding hfinding
    rfl
  · intro finding hfinding
    obtain ⟨found, hfound, rfl⟩ := hplaced finding hfinding
    rw [Finding.ruleId_inFile]
    apply ruleId_ne_empty_of_mem_textFindings hfound
  · intro finding hfinding
    obtain ⟨found, hfound, rfl⟩ := hplaced finding hfinding
    rw [Finding.snippet_inFile]
    apply snippet_ne_of_mem_textFindings hwindow hfound

/-! ### Files and their runs -/

/-- The choices with which each file is analysed: the rules that are off, and the modifiers that
restrict a function to the owner. -/
def AnalyzeOptions.chosen (options : AnalyzeOptions) : Settings where
  disabled := options.disabled
  ownerGuards := "onlyOwner" :: options.ownerGuards
  window := some 2

/-- The outcome of a run that prints findings as JSON. -/
def Outcome.ofFindings (findings : List Finding) : Outcome where
  exitCode := if Finding.anyFails findings then 1 else 0
  output := (findingsToJson (.indented 2) findings).toList ++ ['\n']

theorem Outcome.exitCode_ofFindings_eq_one_iff {findings : List Finding} :
  (Outcome.ofFindings findings).exitCode = 1 ↔ Finding.anyFails findings = true
  := by
  rw [Outcome.ofFindings]
  cases Finding.anyFails findings <;> simp

/-- What is printed is a JSON text of the findings, and the end of a line. -/
theorem Outcome.parse?_ofFindings (findings : List Finding) :
  ∃ text, (Outcome.ofFindings findings).output = text ++ ['\n']
    ∧ Json.parse? text = some (.object [("results", .array (findings.map Finding.toJson))])
  := by
  refine ⟨_, rfl, ?_⟩
  rw [toList_findingsToJson]
  apply (isPlain_resultsOf findings).parse?_write

@[simp] theorem Outcome.output_afterBreakdown (outcome : Outcome) (breakdown : Option Breakdown) :
  (outcome.afterBreakdown breakdown).output = outcome.output
  := by cases breakdown <;> rfl

theorem Outcome.exitCode_afterBreakdown (outcome : Outcome) {breakdown : Option Breakdown}
    (h : breakdown ≠ none) :
  (outcome.afterBreakdown breakdown).exitCode = 1
  := by
  cases breakdown with
  | none => cases h rfl
  | some breakdown => rfl

/-- A run breaks off exactly when its outcome is another one. -/
theorem Outcome.afterBreakdown_ofFindings_eq_iff {findings : List Finding}
    {breakdown : Option Breakdown} :
  (Outcome.ofFindings findings).afterBreakdown breakdown = .ofFindings findings
    ↔ breakdown = none
  := by cases breakdown <;> simp [Outcome.afterBreakdown, Outcome.ofFindings]

namespace AnalyzeOptions

variable {options : AnalyzeOptions} {world : World}

theorem report_json (h : options.format = .json) (columns : Nat) (files : List Path)
    (analyses : List FileAnalysis) :
  options.report columns files analyses = .ofFindings (analyses.flatMap FileAnalysis.findings)
  := by
  rw [report, h]
  rfl

/-- The choices of the command line give the analysis that they stand for. -/
theorem analyze_settings (options : AnalyzeOptions) (path : Option Path) (text : Text) :
  ContractLint.analyze options.settings path text = ContractLint.analyze options.chosen path text
  := by
  apply analyze_congr
  · intro id
    apply mem_sortedNames
  · intro modifier
    apply mem_sortedNames
  · rfl

theorem analyses_eq {sources : List (Path × Text)}
    (h : ∀ source ∈ sources, world.tree.readSource world.current source.1 = .ok source.2) :
  options.analyses world (sources.map Prod.fst) = fileAnalyses options.chosen sources
  := by
  induction sources with
  | nil => rfl
  | cons source sources ih =>
    rw [List.forall_mem_cons] at h
    rw [analyses, List.map_cons, List.filterMap_cons, h.1, ← analyses, ih h.2]
    simp only [analyze_settings]
    rfl

/-- The Solidity files at some places can all be read. -/
theorem exists_sources (hproper : world.tree.isProper = true) {places : List Place}
    (h : ∀ place ∈ places, world.tree.HasSolidityFile place) :
  ∃ sources : List (Path × Text), sources.map Prod.fst = places.map Tree.pathOf
    ∧ ∀ source ∈ sources, world.tree.readSource world.current source.1 = .ok source.2
  := by
  induction places with
  | nil => exact ⟨[], rfl, List.forall_mem_nil _⟩
  | cons place places ih =>
    rw [List.forall_mem_cons] at h
    obtain ⟨sources, hpaths, hread⟩ := ih h.2
    obtain ⟨content, hfile⟩ := h.1.isFile
    refine ⟨(Tree.pathOf place, content.text) :: sources, ?_, ?_⟩
    · rw [List.map_cons, List.map_cons, hpaths]
    · rw [List.forall_mem_cons]
      refine ⟨?_, hread⟩
      rw [FileTree.readSource, Tree.read_pathOf hproper hfile]

/-- The files of a directory are those that a search finds there. -/
theorem files_of_find {places : List Place}
    (h : world.tree.find world.current defaultIgnored false options.target = .ok places) :
  options.files world = .ok (places.map Tree.pathOf)
  ∧ ∃ here entries, world.tree.get? here = some (.directory entries)
    ∧ places = world.tree.findBelow defaultIgnored false here (.directory entries)
  := by
  rw [Tree.find] at h
  split at h
  · cases h
  · next hresolved =>
    split at h
    · cases h
    · next tree hget =>
      split at h
      · next hdirectory =>
        cases h
        cases tree with
        | file content => cases hdirectory
        | link target => cases hdirectory
        | directory entries =>
          refine ⟨?_, _, entries, hget, rfl⟩
          simp only [files, if_neg hresolved, hget]
      · cases h

/-- A Solidity file is the only file of its path. -/
theorem files_of_file (hproper : world.tree.isProper = true) {place : Place}
    (h : world.tree.HasSolidityFile place)
    (htarget : options.target = toString (Tree.pathOf place)) :
  options.files world = .ok [Tree.pathOf place]
  := by
  obtain ⟨⟨content, hget⟩, before, last, hplace, hlast⟩ := h
  have hcanonical : world.tree.canonical world.current (toString (Tree.pathOf place))
      = ⟨place, true⟩ := by
    apply Tree.canonical_pathOf hproper hget
    rintro target ⟨⟩
  have hsolidity : (Tree.pathOf place).isSolidity = true := by
    rw [Path.isSolidity, Path.name, Tree.parts_pathOf (Tree.proper_of_get? hproper hget).1, hplace]
    simpa using hlast
  simp [files, htarget, hcanonical, hget, hsolidity]

end AnalyzeOptions

namespace Command

variable {options : AnalyzeOptions} {world : World} {sources : List (Path × Text)}

theorem breakdown_ofFindings (findings : List Finding) :
  (Outcome.ofFindings findings).breakdown = none
  := rfl

section
variable (hformat : options.format = .json)
    (hfiles : options.files world = .ok (sources.map Prod.fst))
    (hread : ∀ source ∈ sources, world.tree.readSource world.current source.1 = .ok source.2)
include hformat hfiles hread

/-- A run over files that can be read reports their findings, one file after the other. -/
theorem runAnalyze_of_files (hnone : options.saveFor = none) :
  runAnalyze options world = (world, .ofFindings
    (sources.flatMap fun source => ContractLint.analyze options.chosen (some source.1) source.2))
  := by
  rw [runAnalyze, hfiles]
  simp only [AnalyzeOptions.analyses_eq hread, AnalyzeOptions.report_json hformat,
    flatMap_findings_fileAnalyses, hnone, breakdown_ofFindings]

/-- A run that stores its analyses reports the same and may break off afterwards. -/
theorem runAnalyze_of_files_saving {user : RawText} (huser : options.saveFor = some user) :
  runAnalyze options world
    = ((world.saveAll options.database user (fileAnalyses options.chosen sources)).1,
      (Outcome.ofFindings (sources.flatMap fun source =>
        ContractLint.analyze options.chosen (some source.1) source.2)).afterBreakdown
          (world.saveAll options.database user (fileAnalyses options.chosen sources)).2)
  := by
  rw [runAnalyze, hfiles]
  simp only [AnalyzeOptions.analyses_eq hread, AnalyzeOptions.report_json hformat,
    flatMap_findings_fileAnalyses, huser, breakdown_ofFindings]

/-- What is printed does not depend on what is stored. -/
theorem output_runAnalyze_of_files :
  (runAnalyze options world).2.output = (Outcome.ofFindings (sources.flatMap fun source =>
    ContractLint.analyze options.chosen (some source.1) source.2)).output
  := by
  cases hsave : options.saveFor with
  | none => rw [runAnalyze_of_files hformat hfiles hread hsave]
  | some user =>
    rw [runAnalyze_of_files_saving hformat hfiles hread hsave, Outcome.output_afterBreakdown]

end

/-- A run over one file that stores nothing reports the findings of that file. -/
theorem runAnalyze_file (hproper : world.tree.isProper = true) (hformat : options.format = .json)
    (hnone : options.saveFor = none) {place : Place} (h : world.tree.HasSolidityFile place)
    (htarget : options.target = toString (Tree.pathOf place)) {text : Text}
    (hread : world.tree.readSource world.current (Tree.pathOf place) = .ok text) :
  (runAnalyze options world).2
    = .ofFindings (ContractLint.analyze options.chosen (some (Tree.pathOf place)) text)
  := by
  have hsources : ∀ source ∈ [(Tree.pathOf place, text)],
      world.tree.readSource world.current source.1 = .ok source.2 := by
    rw [List.forall_mem_singleton]
    apply hread
  have hfiles := AnalyzeOptions.files_of_file hproper h htarget
  rw [runAnalyze_of_files hformat hfiles hsources hnone, List.flatMap_singleton]

/-- Files at different places have different paths. -/
theorem nodup_map_pathOf (hproper : world.tree.isProper = true) {places : List Place}
    (h : ∀ place ∈ places, world.tree.HasSolidityFile place) (hnodup : places.Nodup) :
  (places.map Tree.pathOf).Nodup
  := by
  have hentries : ∀ place ∈ places, ∀ name ∈ place, Tree.isEntryName name = true := by
    intro place hplace
    obtain ⟨content, hfile⟩ := (h place hplace).isFile
    apply (Tree.proper_of_get? hproper hfile).1
  apply hnodup.map_on
  intro place hplace other hother
  apply Tree.eq_of_pathOf_eq (hentries place hplace) (hentries other hother)

/-- The findings of all files fail a run exactly when those of one file do. -/
theorem exitCode_ofFindings_flatMap (analyses : Path × Text → List Finding) :
  (Outcome.ofFindings (sources.flatMap analyses)).exitCode = 1
    ↔ ∃ source ∈ sources, (Outcome.ofFindings (analyses source)).exitCode = 1
  := by
  simp only [Outcome.exitCode_ofFindings_eq_one_iff]
  rw [Finding.anyFails, List.any_flatMap, List.any_eq_true]
  rfl

end Command

/-- A run over a directory prints a JSON text of the findings of all Solidity files that a search
finds there, one file after the other, each analysed with the chosen rules and owner modifiers.  A
run that stores nothing fails exactly when a run over one of these files does.  A run that is to
store its analyses prints the same, and ends in the same way exactly when storing does not break it
off; if it is broken off then it fails.  If the history can be used and the user has an encoding,
then the history, and the file that it is kept in, gains one record for each of the files, in their
order, with the text of the file and exactly the findings of its own analysis. -/
theorem Command.runAnalyze_directory {options : AnalyzeOptions} {world : World}
    (hproper : world.tree.isProper = true) (hformat : options.format = .json)
    {places : List Place}
    (hfind : world.tree.find world.current defaultIgnored false options.target = .ok places) :
  ∃ sources : List (Path × Text), sources.map Prod.fst = places.map Tree.pathOf
    ∧ (∀ source ∈ sources, world.tree.readSource world.current source.1 = .ok source.2)
    ∧ (∃ text, (runAnalyze options world).2.output = text ++ ['\n']
      ∧ Json.parse? text = some (.object [("results", .array ((sources.flatMap fun source =>
        ContractLint.analyze options.chosen (some source.1) source.2).map Finding.toJson))]))
    ∧ ((runAnalyze { options with saveFor := none } world).2.exitCode = 1
      ↔ ∃ path ∈ places.map Tree.pathOf, (runAnalyze
        { options with target := toString path, saveFor := none } world).2.exitCode = 1)
    ∧ ∀ user, options.saveFor = some user →
      (runAnalyze options world).2.output
        = (runAnalyze { options with saveFor := none } world).2.output
      ∧ ((runAnalyze options world).2 = (runAnalyze { options with saveFor := none } world).2
        ↔ world.StoresQuietly options.database user (places.map Tree.pathOf))
      ∧ (¬ world.StoresQuietly options.database user (places.map Tree.pathOf) →
        (runAnalyze options world).2.exitCode = 1)
      ∧ ∀ name : String, user = .ofString name → world.openingError? options.database = none →
        ∃ session connection table added,
          session = world.savingSession options.database user (fileAnalyses options.chosen sources)
          ∧ (runAnalyze options world).1 = world.after session
          ∧ session.Holds connection table
          ∧ connection.place = world.historyPlace options.database
          ∧ (∀ place, world.historyPlace options.database = some place →
            (runAnalyze options world).1.tree.databaseAt (some place) = .table table)
          ∧ table.rows = (world.heldHistory options.database).rows ++ added
          ∧ Table.recordsOf added = .ok (FileAnalysis.records name world.clock
            ((world.heldHistory options.database).lastId + 1)
            (fileAnalyses options.chosen sources))
  := by
  obtain ⟨hfiles, here, entries, hget, rfl⟩ := AnalyzeOptions.files_of_find hfind
  obtain ⟨hfound, hnodup⟩ := Tree.findBelow_spec hproper hget defaultIgnored
  obtain ⟨sources, hpaths, hread⟩ := AnalyzeOptions.exists_sources hproper hfound
  rw [← hpaths] at hfiles ⊢
  have hplain : runAnalyze { options with saveFor := none } world
      = (world, .ofFindings (sources.flatMap fun source =>
        ContractLint.analyze options.chosen (some source.1) source.2)) :=
    runAnalyze_of_files hformat hfiles hread rfl
  have hsingle : ∀ source ∈ sources,
      (runAnalyze { options with target := toString source.1, saveFor := none } world).2
        = .ofFindings (ContractLint.analyze options.chosen (some source.1) source.2) := by
    intro source hsource
    have hpath : source.1 ∈ sources.map Prod.fst := List.mem_map_of_mem hsource
    rw [hpaths] at hpath
    obtain ⟨place, hplace, hpath⟩ := List.mem_map.mp hpath
    have hown := hread source hsource
    rw [← hpath] at hown ⊢
    refine runAnalyze_file hproper ?_ rfl (hfound place hplace) rfl hown
    apply hformat
  refine ⟨sources, rfl, hread, ?_, ?_, ?_⟩
  · rw [output_runAnalyze_of_files hformat hfiles hread]
    apply Outcome.parse?_ofFindings
  · rw [hplain, exitCode_ofFindings_flatMap]
    simp only [List.mem_map, exists_exists_and_eq_and]
    apply exists_congr
    intro source
    apply and_congr_right
    intro hsource
    rw [hsingle source hsource]
  · intro user huser
    have hpath : (fileAnalyses options.chosen sources).map FileAnalysis.path
        = sources.map Prod.fst := by
      rw [fileAnalyses, List.map_map]
      rfl
    have hsound : ∀ analysis ∈ fileAnalyses options.chosen sources, analysis.IsSound := by
      intro analysis
      apply isSound_of_mem_fileAnalyses rfl
    have hdistinct : ((fileAnalyses options.chosen sources).map FileAnalysis.path).Nodup := by
      rw [hpath, hpaths]
      apply nodup_map_pathOf hproper hfound hnodup
    have hquiet := World.saveAll_snd_eq_none_iff hsound hdistinct world options.database user
    rw [hpath] at hquiet
    rw [hplain, runAnalyze_of_files_saving hformat hfiles hread huser]
    refine ⟨Outcome.output_afterBreakdown _ _, ?_, ?_, ?_⟩
    · rw [← hquiet]
      apply Outcome.afterBreakdown_ofFindings_eq_iff
    · rw [← hquiet]
      apply Outcome.exitCode_afterBreakdown
    · rintro name rfl hopened
      obtain ⟨-, connection, table, added, hholds, hplace, hrows, hadded⟩ :=
        World.saveAll_of_opened hsound hdistinct hopened name
      refine ⟨_, connection, table, added, rfl, rfl, hholds, hplace, ?_, hrows, hadded⟩
      intro place hhistory
      apply hholds.databaseAt (hplace.trans hhistory)

/-- A contract with a function that only its own modifier guards and a statement that a rule
flags. -/
def guardedThrow : String :=
  "contract B \x7b\nfunction upgrade() o \x7b\nthrow;\n\x7d"

/-- A world with an empty contract file, a contract in a directory, and one in a directory that is
not searched. -/
def World.withLibrary : World where
  tree := .directory
    [("src", .directory [("b.sol", .file (.octets (guardedThrow.toList.map Char.toNat)))]),
      ("lib", .directory [("c.sol", .file (.octets []))]), ("a.sol", .file (.octets []))]
  current := []
  clock := { shows := fun _ => "noon" }
  directoryLimit := 0

/-- Choices with which a whole world is analysed and stored. -/
def AnalyzeOptions.savingAll : AnalyzeOptions where
  target := "/"
  format := .json
  disabled := ["throw-usage"]
  ownerGuards := ["o"]
  saveFor := some (.ofString "ada")
  database := some (Path.ofString "h")

/-- What is reported with these choices: the empty file is no contract, and nothing is found in the
other one. -/
def libraryResults : List Json :=
  [.object [("severity", .string "error"), ("message", .string "Invalid source code provided"),
      ("line", .int 1), ("column", .int 1), ("ruleId", .string "input-validation"),
      ("description", .string "The provided source code is empty or invalid."),
      ("recommendation", .string "Please provide valid Solidity source code."),
      ("path", .string "/a.sol")],
    .object [("severity", .string "info"), ("message", .string "No issues found"),
      ("line", .int 1), ("column", .int 1), ("ruleId", .string "analysis-complete"),
      ("description",
        .string "The contract analysis completed successfully with no issues detected."),
      ("recommendation",
        .string "Continue monitoring for potential vulnerabilities as the contract evolves."),
      ("path", .string "/src/b.sol")]]

theorem Command.runAnalyze_directory_library :
  World.withLibrary.tree.isProper = true
  ∧ World.withLibrary.tree.find World.withLibrary.current defaultIgnored false "/"
    = .ok [["a.sol"], ["src", "b.sol"]]
  ∧ World.withLibrary.tree.readSource World.withLibrary.current (Tree.pathOf ["a.sol"]) = .ok []
  ∧ World.withLibrary.tree.readSource World.withLibrary.current (Tree.pathOf ["src", "b.sol"])
    = .ok guardedThrow.toList
  ∧ (∃ text, (runAnalyze .savingAll World.withLibrary).2.output = text ++ ['\n']
    ∧ Json.parse? text = some (.object [("results", .array libraryResults)]))
  ∧ (runAnalyze .savingAll World.withLibrary).2.exitCode = 1
  ∧ ∃ table records,
    (runAnalyze .savingAll World.withLibrary).1.tree.databaseAt (some ["h"]) = .table table
    ∧ Table.recordsOf table.rows = .ok records
    ∧ records.map (fun record => (record.id, record.source, record.findings.map Finding.toJson,
        record.user, record.createdAt))
      = [(1, "", libraryResults.take 1, "ada", "noon"),
        (2, guardedThrow, libraryResults.drop 1, "ada", "noon")]
  := by
  have hproper : World.withLibrary.tree.isProper = true := rfl
  have hfind : World.withLibrary.tree.find World.withLibrary.current defaultIgnored false
      AnalyzeOptions.savingAll.target = .ok [["a.sol"], ["src", "b.sol"]] := by
    have hcanonical : World.withLibrary.tree.canonical World.withLibrary.current
      AnalyzeOptions.savingAll.target = ⟨[], true⟩ := rfl
    have hsolidity : Path.isSolidityName "a.sol" = true ∧ Path.isSolidityName "b.sol" = true := by
      decide
    have hlast : Tree.comesBefore ["src", "b.sol"] ["a.sol"] = false := by decide
    rw [Tree.find_of_canonical hcanonical rfl, Tree.findBelow_directory]
    simp [Tree.visitLinks, Tree.solidityAmong, defaultIgnored, hsolidity, List.mergeSort,
      List.MergeSort.Internal.splitInTwo, hlast]
  have hfirst : World.withLibrary.tree.readSource World.withLibrary.current
      (Tree.pathOf ["a.sol"]) = .ok [] := rfl
  have hsecond : World.withLibrary.tree.readSource World.withLibrary.current
      (Tree.pathOf ["src", "b.sol"]) = .ok guardedThrow.toList := rfl
  have hopened : World.withLibrary.openingError? AnalyzeOptions.savingAll.database = none := rfl
  have hplace : World.withLibrary.historyPlace AnalyzeOptions.savingAll.database
      = some ["h"] := rfl
  have hheld : World.withLibrary.heldHistory AnalyzeOptions.savingAll.database = {} := rfl
  have hformat : AnalyzeOptions.savingAll.format = .json := rfl
  obtain ⟨sources, hpaths, hread, hprinted, -, hstored⟩ :=
    runAnalyze_directory hproper hformat hfind
  obtain ⟨-, hquiet, -, hhistory⟩ := hstored (.ofString "ada") rfl
  obtain ⟨-, -, table, added, -, -, -, -, hfile, hrows, hadded⟩ := hhistory "ada" rfl hopened
  have hfiles : AnalyzeOptions.savingAll.files World.withLibrary
      = .ok (sources.map Prod.fst) := by
    rw [hpaths]
    exact (AnalyzeOptions.files_of_find hfind).1
  simp only [List.map_cons, List.map_nil, List.map_eq_cons_iff, List.map_eq_nil_iff] at hpaths
  obtain ⟨⟨-, first⟩, -, rfl, rfl, ⟨-, second⟩, -, rfl, rfl, rfl⟩ := hpaths
  have htexts := hread
  simp only [List.forall_mem_cons, hfirst, hsecond, Except.ok.injEq] at htexts
  obtain ⟨rfl, rfl, -⟩ := htexts
  -- the two analyses, of which everything else is made
  have hempty : ContractLint.analyze AnalyzeOptions.savingAll.chosen
      (some (Tree.pathOf ["a.sol"])) []
        = [Check.invalidInput.outcome.withPath (Tree.pathOf ["a.sol"])] := by decide +kernel
  have hclean : ContractLint.analyze AnalyzeOptions.savingAll.chosen
      (some (Tree.pathOf ["src", "b.sol"])) guardedThrow.toList
        = [Check.noIssues.outcome.withPath (Tree.pathOf ["src", "b.sol"])] := by decide +kernel
  have hquietly : World.withLibrary.StoresQuietly AnalyzeOptions.savingAll.database
      (.ofString "ada") ([["a.sol"], ["src", "b.sol"]].map Tree.pathOf) := by
    refine ⟨?_, fun _ => .inr ⟨"ada", rfl⟩⟩
    rw [hopened]
    rintro text fault ⟨⟩
  rw [hheld] at hrows hadded
  obtain rfl : table.rows = added := hrows
  simp only [List.flatMap_cons, List.flatMap_nil, hempty, hclean] at hprinted
  refine ⟨hproper, hfind, hfirst, hsecond, hprinted, ?_, table, _, hfile _ hplace, hadded, ?_⟩
  · have hplain : runAnalyze { AnalyzeOptions.savingAll with saveFor := none } World.withLibrary
        = (World.withLibrary, _) := runAnalyze_of_files hformat hfiles hread rfl
    rw [hquiet.mpr hquietly, hplain]
    decide +kernel
  · simp only [fileAnalyses, FileAnalysis.records, List.map_cons, List.map_nil, hempty, hclean,
      String.ofList_toList]
    rfl

/-- A world with one contract, in which no directory can be made for a database. -/
def World.cramped : World where
  tree := .directory [("a.sol", .file (.octets ("contract A \x7b\x7d".toList.map Char.toNat)))]
  current := []
  clock := { shows := fun _ => "noon" }
  directoryLimit := 0

/-- Choices with which a world is stored in a directory that has to be made. -/
def AnalyzeOptions.savingDeep : AnalyzeOptions where
  target := "/"
  format := .json
  saveFor := some (.ofString "ada")
  database := some (Path.ofString "d/h")

/-- The history cannot be opened, and for this reason alone the run fails. -/
theorem Command.runAnalyze_directory_tooDeep :
  World.cramped.openingError? AnalyzeOptions.savingDeep.database
    = some (.cannotOpen "d/h" .tooDeep)
  ∧ (runAnalyze { AnalyzeOptions.savingDeep with saveFor := none } World.cramped).2.exitCode = 0
  ∧ (runAnalyze .savingDeep World.cramped).2.exitCode = 1
  := by
  have herror : World.cramped.openingError? AnalyzeOptions.savingDeep.database
      = some (.cannotOpen "d/h" .tooDeep) := rfl
  have hfind : World.cramped.tree.find World.cramped.current defaultIgnored false
      AnalyzeOptions.savingDeep.target = .ok [["a.sol"]] := by
    have hcanonical : World.cramped.tree.canonical World.cramped.current
      AnalyzeOptions.savingDeep.target = ⟨[], true⟩ := rfl
    have hsolidity : Path.isSolidityName "a.sol" = true := by decide
    rw [Tree.find_of_canonical hcanonical rfl, Tree.findBelow_directory]
    simp [Tree.visitLinks, Tree.solidityAmong, hsolidity]
  have hfiles : AnalyzeOptions.savingDeep.files World.cramped
      = .ok ([(Tree.pathOf ["a.sol"], "contract A \x7b\x7d".toList)].map Prod.fst) :=
    (AnalyzeOptions.files_of_find hfind).1
  have hread : ∀ source ∈ [(Tree.pathOf ["a.sol"], "contract A \x7b\x7d".toList)],
      World.cramped.tree.readSource World.cramped.current source.1 = .ok source.2 := by
    rw [List.forall_mem_singleton]
    rfl
  have hplain : runAnalyze { AnalyzeOptions.savingDeep with saveFor := none } World.cramped
      = (World.cramped, _) := runAnalyze_of_files rfl hfiles hread rfl
  refine ⟨herror, ?_, ?_⟩
  · rw [hplain]
    decide +kernel
  · rw [runAnalyze_of_files_saving rfl hfiles hread rfl]
    apply Outcome.exitCode_afterBreakdown
    rw [ne_eq, World.saveAll_of_openingError herror]
    intro hrefuses
    cases hrefuses _ _ rfl

end ContractLint
