import ContractLint.Command.Arguments
import ContractLint.Path
import ContractLint.Text.Integer

/-!
# Commands

The four commands of the command line with their options, and how they are read from arguments.
-/

namespace ContractLint

/-- How findings are printed. -/
inductive Format where
  /-- As tables. -/
  | table
  /-- As JSON. -/
  | json
  deriving DecidableEq, Repr

namespace Format

/-- The format with a name. -/
def ofName? : String → Option Format
  | "table" => some .table
  | "json" => some .json
  | _ => none

end Format

/-- The choices of an analysis from the command line. -/
structure AnalyzeOptions where
  /-- The file or directory. -/
  target : String
  /-- How findings are printed. -/
  format : Format := .table
  /-- Whether hints are printed. -/
  verbose : Bool := false
  /-- The rules that are off. -/
  disabled : List String := []
  /-- More modifiers that restrict a function to the owner. -/
  ownerGuards : List String := []
  /-- The user for whom the analysis is stored, if it is. -/
  saveFor : Option RawText := none
  /-- The path of the history database. -/
  database : Option Path := none

/-- A command. -/
inductive Command where
  /-- Analyse a file or a directory. -/
  | analyze (options : AnalyzeOptions)
  /-- List the rules. -/
  | rules
  /-- List the history of a user. -/
  | history (user : RawText) (database : Option Path)
  /-- Start the service. -/
  | serve (host : String) (port : Option Int) (database : Option Path)

namespace Command

/-- The option for the history database. -/
def databaseForm : OptionForm := { long := "--db" }

/-- The option for the user. -/
def userForm : OptionForm := { long := "--user" }

/-- The options of an analysis. -/
def analyzeForms : List OptionForm :=
  [{ long := "--format", short := some 'f' },
    { long := "--verbose", short := some 'v', takesValue := false }, { long := "--disable" },
    { long := "--owner-guard" }, { long := "--save", takesValue := false }, userForm,
    databaseForm]

/-- The path of the history database among arguments. -/
def databaseOf (arguments : Arguments) : Option Path :=
  (arguments.value? "--db").map Path.ofString

/-- The user for whom an analysis is stored, if it is. -/
def saveForOf (arguments : Arguments) : Except UsageError (Option RawText) :=
  if arguments.has "--save" then
    match arguments.rawValue? "--user" with
    | some [] | none => .error (.missingOption "--user")
    | some user => .ok (some user)
  else .ok none

/-- The format among arguments. -/
def formatOf (arguments : Arguments) : Except UsageError Format :=
  match arguments.value? "--format" with
  | none => .ok .table
  | some name =>
    match Format.ofName? name with
    | some format => .ok format
    | none => .error (.unknownFormat name)

/-- Read an analysis. -/
def readAnalyze (arguments : List RawText) : Except UsageError Command := do
  let arguments ← Arguments.read analyzeForms arguments
  let target ← arguments.operand "TARGET"
  let format ← formatOf arguments
  let saveFor ← saveForOf arguments
  return .analyze {
    target, format, saveFor
    verbose := arguments.has "--verbose"
    disabled := arguments.values "--disable"
    ownerGuards := arguments.values "--owner-guard"
    database := databaseOf arguments }

/-- Read the listing of rules. -/
def readRules (arguments : List RawText) : Except UsageError Command := do
  let arguments ← Arguments.read [] arguments
  arguments.noOperand
  return .rules

/-- Read the listing of a history. -/
def readHistory (arguments : List RawText) : Except UsageError Command := do
  let arguments ← Arguments.read [userForm, databaseForm] arguments
  arguments.noOperand
  match arguments.rawValue? "--user" with
  | some user => return .history user (databaseOf arguments)
  | none => .error (.missingOption "--user")

/-- The TCP port among arguments. -/
def portOf (arguments : Arguments) : Except UsageError (Option Int) :=
  match arguments.value? "--port" with
  | none => .ok none
  | some text =>
    match Text.integer? text.toList with
    | some port => .ok (some port)
    | none => .error (.badInteger "--port" text)

/-- Read the start of the service. -/
def readServe (arguments : List RawText) : Except UsageError Command := do
  let forms := [{ long := "--host" }, { long := "--port" }, databaseForm]
  let arguments ← Arguments.read forms arguments
  arguments.noOperand
  let port ← portOf arguments
  return .serve ((arguments.value? "--host").getD "127.0.0.1") port (databaseOf arguments)

/-- Read the command with a name. -/
def readNamed (arguments : List RawText) : String → Except UsageError Command
  | "analyze" => readAnalyze arguments
  | "rules" => readRules arguments
  | "history" => readHistory arguments
  | "serve" => readServe arguments
  | name => .error (.unknownCommand name)

/-- Read a command line.  Two dashes may stand before the command. -/
def read : List RawText → Except UsageError Command
  | [] | [[.char '-', .char '-']] => .error .missingCommand
  | [.char '-', .char '-'] :: name :: arguments => readNamed arguments name.faceString
  | name :: arguments =>
    match name with
    | .char '-' :: _ :: _ => .error (.unknownOption name.faceString)
    | _ => readNamed arguments name.faceString

end Command

end ContractLint
