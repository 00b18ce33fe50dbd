import ContractLint.Finding.Wire
import ContractLint.Json.Printer
import ContractLint.Text.Names

/-!
# Reports

A report shows the findings that do more than inform, grouped by file, may list the analysed files
with the number of findings in each, and counts the findings by severity.  The findings are gone
through once for each of these.  The functions here say what a report contains; how it looks on a
console is another matter.  `findingsToJson` is the report as a JSON text.
-/

namespace ContractLint

/-- The findings of a run as a JSON text. -/
def findingsToJson (style : Json.Style) (findings : List Finding) : String :=
  Json.render style (.object [("results", .array (findings.map Finding.toJson))])

/-- The name under which a finding is grouped: the path of its file. -/
def Finding.fileName (finding : Finding) : String :=
  match finding.location.path with
  | some path => toString path
  | none => "<input>"

/-- Whether a finding may stand before another one: by line, and then by column. -/
def Finding.standsBefore (a b : Finding) : Bool :=
  decide (a.location.line.index < b.location.line.index)
    || (a.location.line.index == b.location.line.index
      && decide (a.location.column.index ≤ b.location.column.index))

/-! ### Gathering -/

/-- Values under keys, with the value under one key changed.  A key that is not there yet is put at
the end. -/
def alterAt {κ β : Type} [BEq κ] (key : κ) (change : Option β → β) : List (κ × β) → List (κ × β)
  | [] => [(key, change none)]
  | (other, value) :: rest =>
    if other == key then (other, change (some value)) :: rest
    else (other, value) :: alterAt key change rest

/-- What findings, taken one after the other, add to the values under their keys.  A finding without
a key is passed over. -/
def gather {κ β : Type} [BEq κ] (key? : Finding → Option κ) (add : Option β → Finding → β)
    (findings : List Finding) : List (κ × β) :=
  findings.foldl
    (fun gathered finding =>
      match key? finding with
      | some key => alterAt key (add · finding) gathered
      | none => gathered)
    []

/-! ### Files -/

/-- The findings of one file. -/
structure FileGroup where
  /-- The name of the file. -/
  file : String
  /-- The findings by line and column. -/
  findings : List Finding

namespace FileGroup

/-- The findings whose recommendation is shown, when the recommendations of some rules have been
shown already. -/
def fixesAfter : List String → List Finding → List Finding
  | _, [] => []
  | seen, finding :: rest =>
    if seen.contains finding.ruleId || finding.recommendation == "" then fixesAfter seen rest
    else finding :: fixesAfter (finding.ruleId :: seen) rest

/-- The findings whose recommendation is shown: of each rule the first one that has any. -/
def fixes (group : FileGroup) : List Finding :=
  fixesAfter [] group.findings

/-- The findings that show the line they are about. -/
def quoted (group : FileGroup) : List (Finding × String) :=
  group.findings.filterMap fun finding =>
    match finding.location.snippet with
    | some "" | none => none
    | some snippet => some (finding, snippet)

end FileGroup

/-- An analysed file and the number of findings in it. -/
structure FileStatus where
  /-- The name of the file. -/
  file : String
  /-- The number of findings. -/
  count : Nat
  deriving DecidableEq

/-- Whether a file has findings. -/
def FileStatus.isFlagged (status : FileStatus) : Bool :=
  status.count != 0

/-! ### Reports -/

/-- What a report is made from. -/
structure Report where
  /-- The findings. -/
  findings : List Finding
  /-- The analysed files, if they are listed. -/
  files : List Path := []

namespace Report

/-- Whether there is nothing to show. -/
def isClean (report : Report) : Bool :=
  report.findings.all (·.isInfo) && report.files.isEmpty

/-- The findings that do more than inform under the names of their files. -/
def byFile (report : Report) : List (String × List Finding) :=
  gather (fun finding => if finding.isInfo then none else some finding.fileName)
    (fun held finding => held.getD [] ++ [finding]) report.findings

/-- The files with findings, by name. -/
def groups (report : Report) : List FileGroup :=
  let byFile := report.byFile
  ((byFile.map (·.1)).mergeSort fun a b => decide (a ≤ b)).map fun file =>
    ⟨file, ((byFile.lookup file).getD []).mergeSort Finding.standsBefore⟩

/-- The number of findings that do more than inform under the names of their files. -/
def countsByFile (report : Report) : List (String × Nat) :=
  gather (fun finding => if finding.isInfo then none else some finding.fileName)
    (fun count _ => count.getD 0 + 1) report.findings

/-- The listed files, by name. -/
def fileStatuses (report : Report) : List FileStatus :=
  let counts := report.countsByFile
  (report.files.mergeSort fun a b => decide (toString a ≤ toString b)).map fun path =>
    ⟨toString path, (counts.lookup (toString path)).getD 0⟩

/-- The number of findings that do more than inform by severity. -/
def countsBySeverity (report : Report) : List (Severity × Nat) :=
  gather (fun finding => if finding.isInfo then none else some finding.severity)
    (fun count _ => count.getD 0 + 1) report.findings

/-- The severities in the order in which their counts are shown. -/
def countedSeverities : List Severity :=
  [.error, .high, .medium, .low, .info]

/-- The counts of the severities that occur, in the order in which they are shown. -/
def severityCounts (report : Report) : List (Severity × Nat) :=
  let counts := report.countsBySeverity
  countedSeverities.filterMap fun severity => (counts.lookup severity).map (severity, ·)

/-- The sum of the counts of the severities. -/
def total (report : Report) : Nat :=
  report.countsBySeverity.foldl (fun sum (_, count) => sum + count) 0

end Report

end ContractLint
