import ContractLint.Rule.Catalogue
import ContractLint.Text.Integer
import ContractLint.Text.Names
import ContractLint.Text.Quoted

/-!
# Settings

What a run can choose: which rules are off, which modifiers restrict a function to the owner, and
how near two reports of the same rule may be.  `Environment` holds what the surroundings choose:
the place of the history database and the TCP port of the service.
-/

namespace ContractLint

/-- The choices of an analysis. -/
structure Settings where
  /-- The identifiers of the rules that are off. -/
  disabled : List String := []
  /-- The modifiers that restrict a function to the owner. -/
  ownerGuards : List String := ["onlyOwner"]
  /-- A rule's finding this near to one of the same kind is dropped.  Without a number, two findings
  of one kind cannot be compared. -/
  window : Option Int := some 2

namespace Settings

/-- The default settings with some rules off and more owner modifiers. -/
def withChoices (disabled guards : List String) : Settings where
  disabled := sortedNames disabled
  ownerGuards := sortedNames ("onlyOwner" :: guards)

/-- The rules that are on, in the order of the catalogue. -/
def enabledRules (settings : Settings) : List Rule :=
  Rule.catalogue.filter fun rule => !settings.disabled.contains rule.id

end Settings

/-- A variable for the TCP port that holds no number. -/
structure PortError where
  /-- What the variable holds. -/
  text : String
  deriving DecidableEq, Repr

/-- The text of an error. -/
def PortError.message (error : PortError) : String :=
  "not a port number: " ++ String.ofList (Text.quoted error.text.toList)

/-- The variables of the surroundings that matter. -/
structure Environment where
  /-- The variable for the place of the history database. -/
  database : Option String := none
  /-- The variable for the TCP port. -/
  port : Option String := none

namespace Environment

/-- The path of the history database. -/
def databasePath (environment : Environment) : Path :=
  Path.ofString (environment.database.getD "smartcheck.db")

/-- The TCP port of the service. -/
def portNumber (environment : Environment) : Except PortError Int :=
  match environment.port with
  | none => .ok 3000
  | some text =>
    match Text.integer? text.toList with
    | some port => .ok port
    | none => .error ⟨text⟩

end Environment

end ContractLint
