import Mathlib.Logic.Basic
import Mathlib.Tactic.Use
import ContractLint.Command.Run
import ContractLint.Proofs.Console.Screen
import ContractLint.Proofs.Report.Gathering

/-!
# The exit code of a report

A run of the analysis exits with one when a finding fails it, or when the report is shown as tables
and the name of a file in it holds faulty markup.  So the exit code depends on three things only:
whether a finding fails, which files have findings that do more than inform, and which files are
listed.
-/

namespace ContractLint

open Console

/-! ### Faulty names -/

/-- The name of a file cannot be shown above its findings. -/
def FileGroup.IsFaulty (file : String) : Prop :=
  ∃ error, Markup.render ("[bold cyan]".toList ++ file.toList ++ "[/bold cyan]".toList)
    = .error error

/-- The name of a file cannot be shown among the analysed files. -/
def FileStatus.IsFaulty (file : String) : Prop :=
  ∃ error, Markup.render file.toList = .error error

/-- The part of a file breaks off exactly when its name is faulty. -/
theorem FileGroup.exists_error_mem_blocks_iff (width : Nat) (verbose : Bool) (group : FileGroup) :
  (∃ error, .error error ∈ group.blocks width verbose) ↔ FileGroup.IsFaulty group.file
  := by
  have hsnippets : ∀ error, .error error ∉ group.snippetBlocks width := by
    intro error
    rw [FileGroup.snippetBlocks]
    split
    · simp
    · simp [emptyLine]
  have hfixes : ∀ error, .error error ∉ group.fixBlocks width := by
    intro error
    rw [FileGroup.fixBlocks]
    split
    · simp
    · simp [emptyLine]
  have hheader : ∀ error, .error error = group.header width
      ↔ Markup.render ("[bold cyan]".toList ++ group.file.toList ++ "[/bold cyan]".toList)
        = .error error := by
    intro error
    rw [eq_comm, FileGroup.header, map_eq_error_iff]
  cases verbose
  · simp [FileGroup.blocks, FileGroup.IsFaulty, emptyLine, hsnippets, hheader]
  · simp [FileGroup.blocks, FileGroup.IsFaulty, emptyLine, hsnippets, hfixes, hheader]

/-- The table of files breaks off exactly when one of their names is faulty. -/
theorem FileStatus.exists_block_eq_error_iff (width : Nat) (statuses : List FileStatus) :
  (∃ error, FileStatus.block width statuses = .error error)
    ↔ ∃ status ∈ statuses, FileStatus.IsFaulty status.file
  := by
  simp only [FileStatus.block, map_eq_error_iff, exists_mapM_eq_error_iff, FileStatus.row,
    FileStatus.IsFaulty]

namespace Report

/-- The files with parts of their own are those of the findings that do more than inform. -/
theorem exists_mem_groups_iff {report : Report} {p : String → Prop} :
  (∃ group ∈ report.groups, p group.file) ↔ ∃ finding ∈ report.issues, p finding.fileName
  := by
  have hgroups : (∃ group ∈ report.groups, p group.file)
      ↔ ∃ file ∈ report.byFile.map (·.1), p file := by simp [groups]
  rw [hgroups]
  simp only [mem_keys_byFile]
  constructor
  · rintro ⟨file, ⟨finding, hfinding, rfl⟩, hp⟩
    use finding
  · rintro ⟨finding, hfinding, hp⟩
    use finding.fileName
    use ⟨finding, hfinding, rfl⟩

theorem exists_mem_fileStatuses_iff {report : Report} {p : String → Prop} :
  (∃ status ∈ report.fileStatuses, p status.file) ↔ ∃ path ∈ report.files, p (toString path)
  := by simp only [fileStatuses, List.mem_map, List.mem_mergeSort, exists_exists_and_eq_and]

/-- A report cannot be shown as a whole exactly when the name of a file with findings that do more
than inform, or of a listed file, is faulty. -/
theorem error_screen_ne_none_iff {report : Report} {width : Nat} {verbose : Bool} :
  (report.screen width verbose).error ≠ none
    ↔ (∃ finding ∈ report.issues, FileGroup.IsFaulty finding.fileName)
      ∨ ∃ path ∈ report.files, FileStatus.IsFaulty (toString path)
  := by
  rw [screen, Screen.error_ofBlocks_ne_none_iff, blocks]
  split
  · rename_i hclean
    rw [isClean, Bool.and_eq_true, List.all_eq_true, List.isEmpty_iff] at hclean
    have hissues : report.issues = [] := by
      rw [issues, List.filter_eq_nil_iff]
      simpa using hclean.1
    simp [cleanBlock, hissues, hclean.2]
  · have hgroups : (∃ error, .error error ∈ report.groups.flatMap (·.blocks width verbose))
        ↔ ∃ finding ∈ report.issues, FileGroup.IsFaulty finding.fileName := by
      rw [← exists_mem_groups_iff]
      simp only [List.mem_flatMap, ← FileGroup.exists_error_mem_blocks_iff width verbose]
      grind
    have hfiles : (∃ error, .error error ∈ if report.files.isEmpty = true then []
          else [emptyLine, FileStatus.block width report.fileStatuses])
        ↔ ∃ path ∈ report.files, FileStatus.IsFaulty (toString path) := by
      by_cases hempty : report.files = []
      · simp [hempty]
      · rw [if_neg (by simpa using hempty), ← exists_mem_fileStatuses_iff,
          ← FileStatus.exists_block_eq_error_iff width]
        simp [emptyLine, eq_comm]
    simp only [List.mem_append, exists_or, hgroups, hfiles]
    simp [emptyLine, summaryBlock]

end Report

/-! ### Exit codes -/

theorem Outcome.exitCode_ofScreen (exitCode : Nat) (screen : Screen) :
  (Outcome.ofScreen exitCode screen).exitCode = if screen.error ≠ none then 1 else exitCode
  := by
  rw [Outcome.ofScreen]
  cases screen.error with
  | none => rfl
  | some error => simp

/-- The exit codes of two reports agree when the same files are listed, the same files have findings
that do more than inform, and both have findings that fail or neither has. -/
theorem AnalyzeOptions.exitCode_report_congr {options : AnalyzeOptions} {columns : Nat}
    {files : List Path} {left right : List FileAnalysis}
    (hpaths : left.map FileAnalysis.path = right.map FileAnalysis.path)
    (hfails : Finding.anyFails (left.flatMap FileAnalysis.findings)
      = Finding.anyFails (right.flatMap FileAnalysis.findings))
    (hnames : ∀ p : String → Prop,
      (∃ finding ∈ left.flatMap FileAnalysis.findings, ¬ finding.isInfo = true
          ∧ p finding.fileName)
        ↔ ∃ finding ∈ right.flatMap FileAnalysis.findings, ¬ finding.isInfo = true
          ∧ p finding.fileName) :
  (options.report columns files left).exitCode = (options.report columns files right).exitCode
  := by
  have hexit (analyses : List FileAnalysis) (listed : List Path) :
      (Report.screen columns options.verbose
          ⟨analyses.flatMap FileAnalysis.findings, listed⟩).error ≠ none
        ↔ (∃ finding ∈ analyses.flatMap FileAnalysis.findings, ¬ finding.isInfo = true
            ∧ FileGroup.IsFaulty finding.fileName)
          ∨ ∃ path ∈ listed, FileStatus.IsFaulty (toString path) := by
    rw [Report.error_screen_ne_none_iff]
    simp [Report.issues, and_assoc]
  rw [AnalyzeOptions.report, AnalyzeOptions.report]
  cases options.format with
  | json => simp only [hfails]
  | table =>
    rw [Outcome.exitCode_ofScreen, Outcome.exitCode_ofScreen]
    apply if_congr
    · rw [hexit, hexit, hnames, hpaths]
    · rfl
    · rw [hfails]

end ContractLint
