import ContractLint.Finding.Wire
import ContractLint.Rule.Pattern

/-!
# The rule catalogue

A rule looks at one line and flags it or not.  `catalogue` lists the rules in the order in which
they report on a line.
-/

namespace ContractLint

/-- A check of single lines. -/
structure Rule extends Check where
  /-- The name of the rule for people. -/
  name : String
  /-- Whether the rule flags a line. -/
  flags : Line → Bool

namespace Rule

/-- The rule that flags the lines with one of some needles in them. -/
def ofNeedles (name : String) (check : Check) (needles : List Text) : Rule :=
  { check with name, flags := Text.anyOccursIn needles }

/-- An external call and a write of state on one line. -/
def reentrancy : Rule where
  id := "reentrancy"
  name := "Reentrancy"
  severity := .high
  message := "Potential reentrancy vulnerability detected"
  description := "The contract may be vulnerable to reentrancy attacks. "
    ++ "State changes are made after external calls."
  recommendation :=
    "Consider using the Checks-Effects-Interactions pattern or a reentrancy guard."
  flags line := Pattern.callsOut line && Pattern.writesState line

/-- Authentication by the origin of a transaction. -/
def txOrigin : Rule :=
  ofNeedles "tx.origin usage"
    { id := "tx-origin"
      severity := .high
      message := "Use of tx.origin detected"
      description := "Use of tx.origin for authentication is vulnerable to phishing attacks."
      recommendation := "Use msg.sender instead of tx.origin for authentication." }
    ["tx.origin".toList]

/-- Use of the time of a block. -/
def timestampDependence : Rule :=
  ofNeedles "Timestamp dependence"
    { id := "timestamp-dependence"
      severity := .medium
      message := "Timestamp dependence detected"
      description := "Contract uses block.timestamp for critical operations."
      recommendation := "Avoid using block.timestamp for critical operations "
        ++ "as it can be manipulated by miners." }
    ["block.timestamp".toList]

/-- An address written into the code. -/
def hardcodedAddress : Rule where
  id := "hardcoded-address"
  name := "Hardcoded address"
  severity := .medium
  message := "Hardcoded address detected"
  description := "Contract contains hardcoded Ethereum addresses."
  recommendation :=
    "Use configuration variables or constructor parameters instead of hardcoded addresses."
  flags := Pattern.hasAddress

/-- A transfer of value without a condition on the line. -/
def uncheckedSend : Rule where
  id := "unchecked-send"
  name := "Unchecked send/transfer"
  severity := .medium
  message := "Unchecked send/transfer detected"
  description := "Unchecked return value from send/transfer call."
  recommendation := "Always check the return value of send/transfer calls."
  flags line := Text.anyOccursIn Pattern.sends line && !Pattern.isGuarded line

/-- Foreign code run on the storage of the contract. -/
def delegatecallUsage : Rule :=
  ofNeedles "delegatecall usage"
    { id := "delegatecall-usage"
      severity := .high
      message := "Use of delegatecall detected"
      description := "Use of delegatecall detected."
      recommendation := "Be extremely careful with delegatecall as it can lead to unexpected "
        ++ "behavior and vulnerabilities." }
    [".delegatecall(".toList]

/-- Destruction of the contract. -/
def selfdestructUsage : Rule :=
  ofNeedles "selfdestruct usage"
    { id := "selfdestruct-usage"
      severity := .high
      message := "Use of selfdestruct detected"
      description := "Use of selfdestruct detected."
      recommendation := "Be careful with selfdestruct as it can lead to loss of funds." }
    ["selfdestruct(".toList]

/-- The old name of the destruction of the contract. -/
def suicideUsage : Rule :=
  ofNeedles "Deprecated suicide"
    { id := "suicide-usage"
      severity := .high
      message := "Use of deprecated suicide function detected"
      description := "Use of deprecated suicide function detected."
      recommendation := "Use selfdestruct instead of suicide as it is deprecated." }
    ["suicide(".toList]

/-- The old way to give up a transaction. -/
def throwUsage : Rule :=
  ofNeedles "Deprecated throw"
    { id := "throw-usage"
      severity := .medium
      message := "Use of deprecated throw statement detected"
      description := "Use of deprecated throw statement detected."
      recommendation := "Use require, assert, or revert instead of throw." }
    ["throw;".toList]

/-- The head of a loop without a condition on the line. -/
def gasLimit : Rule where
  id := "gas-limit"
  name := "Unbounded loop"
  severity := .medium
  message := "Potential gas limit issue detected"
  description := "Potential gas limit issue detected."
  recommendation :=
    "Consider using loops with a fixed number of iterations or implement pagination."
  flags line := Text.anyOccursIn Pattern.loops line && !Pattern.isGuarded line

/-- The rules in the order in which they report on a line. -/
def catalogue : List Rule :=
  [reentrancy, txOrigin, timestampDependence, hardcodedAddress, uncheckedSend, delegatecallUsage,
    selfdestructUsage, suicideUsage, throwUsage, gasLimit]

/-- The rule of the catalogue with an identifier. -/
def find? (id : String) : Option Rule :=
  catalogue.find? (·.id == id)

/-- The snippet that a rule shows of a line: the line trimmed, if anything is left. -/
def snippet (line : Line) : Option String :=
  let trimmed := Text.trim line
  if trimmed.isEmpty then none else some (String.ofList trimmed)

/-- The finding of a rule on a line at a position, if the rule flags the line. -/
def check? (rule : Rule) (line : Line) (position : Position) : Option Finding :=
  if rule.flags line then some (rule.toCheck.findingAt position (snippet line)) else none

end Rule

/-- The findings of checks that share a line number and a snippet.  A number below one is an error
as soon as there is a finding to place. -/
def Check.findingsAtNumber (checks : List Check) (number : Int) (snippet : Option String) :
    Except WireError (List Finding) :=
  match Position.ofInt? number with
  | some position => .ok (checks.map (·.findingAt position snippet))
  | none => if checks.isEmpty then .ok [] else .error (.invalid [(.line, .belowOne)])

/-- The findings of some rules on one line with a number. -/
def Rule.reportLine (rules : List Rule) (line : Line) (number : Int) :
    Except WireError (List Finding) :=
  Check.findingsAtNumber ((rules.filter (·.flags line)).map (·.toCheck)) number
    (Rule.snippet line)

end ContractLint
