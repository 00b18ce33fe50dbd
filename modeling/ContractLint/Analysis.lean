import ContractLint.Contract.Review
import ContractLint.Settings

/-!
# Analysis

`analyze` turns a text into findings.  The findings of the preamble and of the functions come
first; the findings of the rules on single lines are merged into them, except where one of the
same kind is already near.  A text that is blank, or declares no contract, or has nothing to
report, gives one finding that says so.
-/

namespace ContractLint

/-! ### Outcomes -/

namespace Check

/-- The text is missing or blank. -/
def invalidInput : Check where
  id := "input-validation"
  severity := .error
  message := "Invalid source code provided"
  description := "The provided source code is empty or invalid."
  recommendation := "Please provide valid Solidity source code."

/-- The text declares no contract. -/
def noContract : Check where
  id := "syntax"
  severity := .error
  message := "No contract declaration found"
  description := "The code must contain a contract declaration."
  recommendation := "Add a contract declaration using 'contract ContractName \x7b'"

/-- The analysis itself failed. -/
def internalError : Check where
  id := "internal-error"
  severity := .error
  message := "Analysis error"
  description := "An internal error occurred while analyzing the contract."
  recommendation := "Please try again with valid Solidity code. If the error persists, "
    ++ "check the contract syntax."

/-- There is nothing to report. -/
def noIssues : Check where
  id := "analysis-complete"
  severity := .info
  message := "No issues found"
  description := "The contract analysis completed successfully with no issues detected."
  recommendation := "Continue monitoring for potential vulnerabilities as the contract evolves."

/-- The finding of an outcome, which concerns the text as a whole. -/
def outcome (check : Check) : Finding :=
  check.findingAt .first none

end Check

/-! ### Rules on lines -/

/-- The findings of rules on the lines of a source that are not empty, by line and then in the order
of the rules. -/
def lineFindings (rules : List Rule) (source : Source) : List Finding :=
  source.lines.zipIdx.flatMap fun (line, index) =>
    if line.isEmpty then []
    else rules.filterMap fun rule => rule.check? line (source.position index)

/-! ### Merging -/

/-- Whether two findings are of one kind and at most `window` lines apart. -/
def Finding.isNear (window : Int) (a b : Finding) : Bool :=
  a.ruleId == b.ruleId && decide ((a.line.distance b.line : Int) ≤ window)

/-- The findings that are there, with one candidate after the other appended to them.  A candidate
that is near to one of the findings that were there at the start is left out. -/
def merge (window : Int) (existing candidates : List Finding) : List Finding :=
  candidates.foldl
    (fun merged candidate =>
      if existing.any fun finding => finding.isNear window candidate then merged
      else merged ++ [candidate])
    existing

/-- Whether a candidate and a finding that is there are of one kind. -/
def sharesKind (existing candidates : List Finding) : Bool :=
  candidates.any fun candidate => existing.any fun finding =>
    finding.ruleId == candidate.ruleId

/-- The merged findings; there are none without a window when two findings of one kind would have to
be compared. -/
def merge? (window : Option Int) (existing candidates : List Finding) :
    Option (List Finding) :=
  match window with
  | some window => some (merge window existing candidates)
  | none => if sharesKind existing candidates then none else some (existing ++ candidates)

/-- The findings, or the outcome that there is nothing to report when all of them only inform. -/
def conclude (findings : List Finding) : List Finding :=
  if findings.all (·.isInfo) then [Check.noIssues.outcome] else findings

/-! ### The whole analysis -/

/-- The findings of the contract as a whole, before those of single lines. -/
def reviewFindings (settings : Settings) (source : Source) (layout : Layout) : List Finding :=
  layout.preambleFindings source ++ layout.functionFindings settings.ownerGuards source

/-- The findings of a source that declares a contract. -/
def contractFindings (settings : Settings) (source : Source) (layout : Layout) : List Finding :=
  match merge? settings.window (reviewFindings settings source layout)
      (lineFindings settings.enabledRules source) with
  | some findings => conclude findings
  | none => [Check.internalError.outcome]

/-- The findings of a source. -/
def sourceFindings (settings : Settings) (source : Source) : List Finding :=
  match Layout.ofLines? source.lines with
  | some layout => contractFindings settings source layout
  | none => [Check.noContract.outcome]

/-- The findings of a text. -/
def textFindings (settings : Settings) (text : Text) : List Finding :=
  if (Text.trim text).isEmpty then [Check.invalidInput.outcome]
  else sourceFindings settings (Source.ofText text)

/-- The findings with the file they came from, if there is one. -/
def placeIn (path : Option Path) (findings : List Finding) : List Finding :=
  match path with
  | some path => findings.map (·.withPath path)
  | none => findings

/-- The analysis of a text that may come from a file. -/
def analyze (settings : Settings) (path : Option Path) (text : Text) : List Finding :=
  placeIn path (textFindings settings text)

/-- The analysis of a value that should be a text. -/
def analyzeValue (settings : Settings) (path : Option Path) : Json → List Finding
  | .string text => analyze settings path text.toList
  | _ => placeIn path [Check.invalidInput.outcome]

end ContractLint
