import ContractLint.Source

/-!
# Patterns of contract code

The textual patterns that the rules and the review of functions look for in a line.
-/

namespace ContractLint.Pattern

/-- Calls that hand control and value to another contract. -/
def externalCalls : List Text :=
  [".call\x7b".toList, ".send(".toList, ".transfer(".toList]

/-- Transfers of value that may fail. -/
def sends : List Text :=
  [".send(".toList, ".transfer(".toList]

/-- Writes to the storage of a contract. -/
def stateChanges : List Text :=
  ["balances[".toList, "+=".toList, "-=".toList]

/-- Conditions on the same line. -/
def guards : List Text :=
  ["require(".toList, "if (".toList, "assert(".toList]

/-- Heads of loops. -/
def loops : List Text :=
  ["for (".toList, "while (".toList]

/-- Fronts of lines that validate the value sent along. -/
def valueChecks : List Text :=
  ["require(msg.value".toList, "if (msg.value".toList]

/-- Whether a line calls out. -/
def callsOut (line : Line) : Bool :=
  Text.anyOccursIn externalCalls line

/-- Whether a line writes state. -/
def writesState (line : Line) : Bool :=
  Text.anyOccursIn stateChanges line

/-- Whether a line holds a condition. -/
def isGuarded (line : Line) : Bool :=
  Text.anyOccursIn guards line

/-- Whether a line validates the value sent along. -/
def checksValue (line : Line) : Bool :=
  valueChecks.any fun front => front.isPrefixOf line

/-- Whether a character is a hexadecimal digit. -/
def isHexDigit (c : Char) : Bool :=
  c.isDigit || ('a' ≤ c && c ≤ 'f') || ('A' ≤ c && c ≤ 'F')

/-- Whether the front of a text is an address: `0x` and forty hexadecimal digits. -/
def addressAtFront (text : Text) : Bool :=
  "0x".toList.isPrefixOf text && ((text.drop 2).takeWhile isHexDigit).length ≥ 40

/-- Whether an address stands somewhere in a text. -/
def hasAddress : Text → Bool
  | [] => false
  | c :: rest => addressAtFront (c :: rest) || hasAddress rest

end ContractLint.Pattern
