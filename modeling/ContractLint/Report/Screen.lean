import ContractLint.Console.Grid
import ContractLint.Console.Screen
import ContractLint.Report.Basic

/-!
# Reports on the console

A clean report is a single panel.  Any other one shows a table for every file with findings, the
lines they are about and, if asked for, how to fix them; then the analysed files, if they are
listed, and a summary.
-/

namespace ContractLint

open Console

namespace FileGroup

/-- The panel with the name of the file, which may hold markup. -/
def header (width : Nat) (group : FileGroup) : Block :=
  (Markup.render ("[bold cyan]".toList ++ group.file.toList ++ "[/bold cyan]".toList)).map
    fun name => panel .simple width none (paragraph (width - 4) name)

/-- The table of findings. -/
def grid (group : FileGroup) : Grid where
  frame := .simple
  columns :=
    [{ header := "Line".toList, alignment := .right, width := some 5 },
      { header := "Severity".toList, width := some 8 },
      { header := "Rule".toList, width := some 26, noWrap := true },
      { header := "Message".toList }]
  rows := group.findings.map fun finding =>
    [Text.ofInt finding.location.line.number, finding.severity.label.toList,
      '[' :: finding.ruleId.toList ++ [']'], finding.message.toList]

/-- A number right aligned in four columns. -/
def lineLabel (number : Nat) : Text :=
  let digits := Text.ofInt number
  blanks (4 - digits.length) ++ digits

/-- The lines that the findings are about, and then an empty line. -/
def snippetBlocks (width : Nat) (group : FileGroup) : List Block :=
  match group.quoted with
  | [] => []
  | quoted =>
    (quoted.map fun (finding, snippet) =>
      .ok (paragraph width ("  ".toList ++ lineLabel finding.location.line.number
        ++ " | ".toList ++ snippet.toList))) ++ [emptyLine]

/-- How to fix the findings, and then an empty line. -/
def fixBlocks (width : Nat) (group : FileGroup) : List Block :=
  match group.fixes with
  | [] => []
  | fixes =>
    (fixes.map fun finding =>
      .ok (paragraph width ("  [Fix] [".toList ++ finding.ruleId.toList ++ "] ".toList
        ++ finding.recommendation.toList))) ++ [emptyLine]

/-- The part of a report about one file. -/
def blocks (width : Nat) (verbose : Bool) (group : FileGroup) : List Block :=
  [emptyLine, group.header width, .ok (group.grid.lines width)] ++ group.snippetBlocks width
    ++ if verbose then group.fixBlocks width else []

end FileGroup

namespace FileStatus

/-- The row of a file, whose name may hold markup. -/
def row (status : FileStatus) : Except Markup.TagError (List Text) :=
  (Markup.render status.file.toList).map fun name =>
    [name, (if status.isFlagged then "FLAGGED" else "OK").toList, Text.ofInt status.count]

/-- The table of analysed files. -/
def grid (rows : List (List Text)) : Grid where
  title := some "Files Summary".toList
  columns :=
    [{ header := "File".toList }, { header := "Status".toList, width := some 10 },
      { header := "Findings".toList, alignment := .right, width := some 8 }]
  rows

/-- The panel with the table of analysed files. -/
def block (width : Nat) (statuses : List FileStatus) : Block :=
  (statuses.mapM row).map fun rows =>
    panel .rounded width none ((grid rows).lines (width - 4))

end FileStatus

namespace Report

/-- The panel of a clean report. -/
def cleanBlock (width : Nat) : Block :=
  .ok (panel .rounded width (some "SmartCheck Analysis".toList)
    (paragraph (width - 4) "No issues found.".toList))

/-- The number of findings, and the number for each severity. -/
def summary (report : Report) : Text :=
  let noun := if report.total = 1 then " finding" else " findings"
  List.intercalate " | ".toList ((Text.ofInt report.total ++ noun.toList)
    :: report.severityCounts.map fun (severity, count) =>
      Text.ofInt count ++ ' ' :: severity.name.toList)

/-- The panel with the summary. -/
def summaryBlock (width : Nat) (report : Report) : Block :=
  .ok (panel .rounded width (some "Summary".toList) (paragraph (width - 4) report.summary))

/-- The blocks of a report. -/
def blocks (width : Nat) (verbose : Bool) (report : Report) : List Block :=
  if report.isClean then [cleanBlock width]
  else
    report.groups.flatMap (·.blocks width verbose)
      ++ (if report.files.isEmpty then []
        else [emptyLine, FileStatus.block width report.fileStatuses])
      ++ [emptyLine, report.summaryBlock width]

/-- A report on a console of some width. -/
def screen (width : Nat) (verbose : Bool) (report : Report) : Screen :=
  .ofBlocks (report.blocks width verbose)

end Report

end ContractLint
