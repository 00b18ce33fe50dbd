import ContractLint.Contract.Signature
import ContractLint.Rule.Pattern

/-!
# Functions

A function of a contract as the scan sees it: the facts of its signature line and all lines up to
the next signature.  The flags for external calls and writes of state are set by the lines after
the signature only.
-/

namespace ContractLint

/-- A function with the lines that belong to it. -/
structure Function where
  /-- The name, empty if the signature gives none. -/
  name : String
  /-- Who may call the function. -/
  visibility : Visibility
  /-- Whether the signature speaks of receiving value. -/
  isPayable : Bool
  /-- The modifiers attached to the function, in increasing order. -/
  modifiers : List String
  /-- The signature line and the lines after it. -/
  body : List Line
  /-- Whether a line after the signature calls out. -/
  callsOut : Bool
  /-- Whether a line after the signature writes state. -/
  writesState : Bool
  deriving DecidableEq

namespace Function

/-- The function that a signature line opens. -/
def ofSignature (line : Line) : Function where
  name := Signature.functionName line
  visibility := Signature.visibility line
  isPayable := Text.occursIn "payable".toList line
  modifiers := Signature.modifiers line
  body := [line]
  callsOut := false
  writesState := false

/-- The function with one more line. -/
def addLine (function : Function) (line : Line) : Function :=
  { function with
    body := function.body ++ [line]
    callsOut := function.callsOut || Pattern.callsOut line
    writesState := function.writesState || Pattern.writesState line }

/-- The function with more lines. -/
def addLines (function : Function) (lines : List Line) : Function :=
  lines.foldl addLine function

/-- The lines of a function as one text. -/
def bodyText (function : Function) : Text :=
  List.intercalate ['\n'] function.body

/-- The functions among numbered lines, each with the number of its signature.  A signature closes
the function before it; lines before the first signature belong to none. -/
def split {ι : Type} : List (Line × ι) → List (Function × ι)
  | [] => []
  | (line, number) :: rest =>
    if Signature.opensFunction line then
      let own := rest.takeWhile fun (line, _) => !Signature.opensFunction line
      ((ofSignature line).addLines (own.map (·.1)), number) :: split rest
    else split rest

end Function

/-- The lines from an index on with their indices.  A negative index counts from the end, and the
lines then go on from the first one; none exist before the whole list. -/
def numberedFrom (lines : List Line) (start : Int) : Option (List (Line × Int)) :=
  let number (offset : Int) (lines : List Line) : List (Line × Int) :=
    lines.zipIdx.map fun (line, index) => (line, offset + index)
  if 0 ≤ start then some (number start (lines.drop start.toNat))
  else if -start ≤ lines.length then
    some (number start (lines.drop (lines.length - (-start).toNat)) ++ number 0 lines)
  else none

/-- The functions among the lines from an index on, if there are lines at that index. -/
def functionsFrom (lines : List Line) (start : Int) : Option (List (Function × Int)) :=
  (numberedFrom lines start).map Function.split

end ContractLint
