import ContractLint.Path
import ContractLint.Position

/-!
# Findings

A finding is one reported issue: which check reports it, how severe it is, what it says and where
it is.  A `Check` is the fixed prose of one kind of finding; `Check.findingAt` places it.
-/

namespace ContractLint

/-- How serious a finding is.  The levels `info` and `error` are for the outcome of an analysis as
a whole. -/
inductive Severity where
  | high
  | medium
  | low
  | info
  | error
  deriving DecidableEq, Repr

namespace Severity

/-- The name of a severity. -/
def name : Severity → String
  | .high => "high"
  | .medium => "medium"
  | .low => "low"
  | .info => "info"
  | .error => "error"

/-- The severity with a name. -/
def ofName? : String → Option Severity
  | "high" => some .high
  | "medium" => some .medium
  | "low" => some .low
  | "info" => some .info
  | "error" => some .error
  | _ => none

theorem ofName?_name (severity : Severity) :
  ofName? severity.name = some severity
  := by cases severity <;> rfl

/-- The name in capital letters. -/
def label (severity : Severity) : String :=
  String.ofList (severity.name.toList.map Char.toUpper)

/-- Whether a run that reports the severity has failed. -/
def isFailing : Severity → Bool
  | .high | .error => true
  | .medium | .low | .info => false

end Severity

/-- Where a finding is reported. -/
structure Location where
  /-- The line in the text as it was given. -/
  line : Position
  /-- The column in that line. -/
  column : Position := .first
  /-- The file that holds the text. -/
  path : Option Path := none
  /-- The line itself. -/
  snippet : Option String := none
  deriving DecidableEq

/-- One reported issue. -/
structure Finding where
  /-- The identifier of the check. -/
  ruleId : String
  /-- How serious the issue is. -/
  severity : Severity
  /-- What was found. -/
  message : String
  /-- Where it was found. -/
  location : Location
  /-- Why it matters. -/
  description : String := ""
  /-- What to do about it. -/
  recommendation : String := ""
  deriving DecidableEq

namespace Finding

/-- The line of a finding. -/
def line (finding : Finding) : Position :=
  finding.location.line

/-- The finding with its file set. -/
def withPath (path : Path) (finding : Finding) : Finding :=
  { finding with location := { finding.location with path := some path } }

/-- Whether a finding only informs. -/
def isInfo (finding : Finding) : Bool :=
  finding.severity == .info

/-- Whether some finding makes a run fail. -/
def anyFails (findings : List Finding) : Bool :=
  findings.any (·.severity.isFailing)

end Finding

/-- The fixed prose of one kind of finding. -/
structure Check where
  /-- The identifier of the check. -/
  id : String
  /-- The severity of all its findings. -/
  severity : Severity
  /-- What is found. -/
  message : String
  /-- Why it matters. -/
  description : String
  /-- What to do about it. -/
  recommendation : String

/-- The finding of a check on a line, with the line's text as snippet. -/
def Check.findingAt (check : Check) (line : Position) (snippet : Option String) :
    Finding where
  ruleId := check.id
  severity := check.severity
  message := check.message
  location := { line, snippet }
  description := check.description
  recommendation := check.recommendation

end ContractLint
