import ContractLint.Finding.Basic
import ContractLint.Json.Display

/-!
# The wire form of findings

`Finding.toJson` writes a finding as a flat JSON object, the form that reports, responses and the
history share.  `Finding.ofJson` reads it back and accepts older spellings: the rule under another
key, and positions as texts, truth values or numbers without a fraction.  The first of the steps
below that fails decides the error.
-/

namespace ContractLint

/-- A field of a finding that is checked when it is read. -/
inductive WireField where
  | line
  | column
  | path
  | snippet
  | ruleId
  | message
  | description
  | recommendation
  deriving DecidableEq, Repr

/-- The name of a field in error reports. -/
def WireField.name : WireField → String
  | .line => "line"
  | .column => "column"
  | .path => "path"
  | .snippet => "snippet"
  | .ruleId => "rule_id"
  | .message => "message"
  | .description => "description"
  | .recommendation => "recommendation"

/-- What is wrong with the value of a field. -/
inductive WireFault where
  /-- A value that cannot stand for an integer. -/
  | notInteger
  /-- A text that writes no integer. -/
  | unreadableInteger
  /-- A text or number too large to be read as an integer. -/
  | oversizedInteger
  /-- A number with a fraction. -/
  | fractional
  /-- An infinite or undefined number. -/
  | notFinite
  /-- A position below one. -/
  | belowOne
  /-- A value that is no path. -/
  | notPath
  /-- A value that is no text. -/
  | notText
  deriving DecidableEq, Repr

/-- The name of a fault in error reports. -/
def WireFault.name : WireFault → String
  | .notInteger => "int_type"
  | .unreadableInteger => "int_parsing"
  | .oversizedInteger => "int_parsing_size"
  | .fractional => "int_from_float"
  | .notFinite => "finite_number"
  | .belowOne => "greater_than_equal"
  | .notPath => "path_type"
  | .notText => "string_type"

/-- Why a value is not the wire form of a finding. -/
inductive WireError where
  /-- The value is no object. -/
  | notObject (value : Json)
  /-- A key is missing. -/
  | missing (key : String)
  /-- The severity is none of the five. -/
  | unknownSeverity (value : Json)
  /-- Some fields have faulty values. -/
  | invalid (faults : List (WireField × WireFault))
  deriving Repr

/-- The text of an error. -/
def WireError.message : WireError → String
  | .notObject _ => "a finding must be an object"
  | .missing key => String.ofList (Text.quoted key.toList)
  | .unknownSeverity value => String.ofList value.display ++ " is not a valid Severity"
  | .invalid faults =>
    ", ".intercalate (faults.map fun (field, fault) => field.name ++ ": " ++ fault.name)

namespace Finding

/-! ### Writing -/

/-- The fields of the wire form.  A missing path and a missing or empty snippet are left out. -/
def wireFields (finding : Finding) : List (String × Json) :=
  [("severity", .string finding.severity.name),
    ("message", .string finding.message),
    ("line", .nat finding.location.line.number),
    ("column", .nat finding.location.column.number),
    ("ruleId", .string finding.ruleId),
    ("description", .string finding.description),
    ("recommendation", .string finding.recommendation)]
  ++ (match finding.location.path with
    | some path => [("path", .string (toString path))]
    | none => [])
  ++ (match finding.location.snippet with
    | some "" | none => []
    | some snippet => [("snippet", .string snippet)])

/-- The wire form of a finding. -/
def toJson (finding : Finding) : Json :=
  .object finding.wireFields

/-! ### Reading positions -/

/-- Whether a text writes an integer in the plain way: digits without a superfluous zero, after a
minus sign if it is negative. -/
def isPlainInteger (text : Text) : Bool :=
  let digits := if text.head? = some '-' then text.drop 1 else text
  digits == ['0'] || (digits.all Char.isDigit && digits.head?.any (· != '0'))

/-- The text without zeros before the first other digit, and without underscores among them; one
zero stays if there is no other digit before a point or the end. -/
def dropLeadingZeros? : Text → Option Text
  | [] => none
  | c :: rest =>
    if c = '0' then
      let last := (rest.takeWhile fun c => c == '0' || c == '_').getLastD '0'
      match rest.dropWhile fun c => c == '0' || c == '_' with
      | [] => some [last]
      | '.' :: fraction => some (last :: '.' :: fraction)
      | d :: more => if d.isDigit then some (d :: more) else none
    else if c.isDigit || c = '-' then some (c :: rest)
    else none

/-- The text without a final point and zeros after it. -/
def dropZeroFraction (text : Text) : Text :=
  let zeros := text.reverse.takeWhile (· == '0')
  match text.reverse.dropWhile (· == '0') with
  | '.' :: rest => if zeros.isEmpty then text else rest.reverse
  | _ => text

/-- The text without underscores, if each of them stands alone and inside the text. -/
def dropUnderscores (text : Text) : Text :=
  if text.head? = some '_' || text.getLast? = some '_' || Text.occursIn ['_', '_'] text then text
  else text.filter (· != '_')

/-- A text that writes an integer with more than the plain way needs, in the plain way: without a
plus sign, leading zeros, underscores between digits and zeros after a point. -/
def tidyInteger? (text : Text) : Option Text :=
  let unsigned? :=
    match text with
    | '+' :: '-' :: _ => none
    | '+' :: rest => some rest
    | _ => some text
  (unsigned?.bind dropLeadingZeros?).map fun digits => dropUnderscores (dropZeroFraction digits)

/-- The most characters of an integer in a text. -/
def integerLimit : Nat := 4300

/-- The integer that a text writes, with blanks around it. -/
def readIntegerText (text : Text) : Except WireFault Int :=
  let trimmed := Text.dropMargins text
  let plain := if isPlainInteger trimmed then trimmed else (tidyInteger? trimmed).getD []
  if isPlainInteger plain && integerLimit < plain.length then .error .oversizedInteger
  else if isPlainInteger plain then
    match Text.signed? Text.asciiDigit? plain with
    | some n => .ok n
    | none => .error .unreadableInteger
  else .error .unreadableInteger

/-- The integer that a value stands for. -/
def readInteger : Json → Except WireFault Int
  | .number (.integer n) => .ok n
  | .bool value => .ok (if value then 1 else 0)
  | .number (.real (.finite negative mantissa exponent)) =>
    match (Binary64.finite negative mantissa exponent).integer? with
    | none => .error .fractional
    | some n => if n.natAbs < Nat.pow 2 63 then .ok n else .error .oversizedInteger
  | .number (.real _) => .error .notFinite
  | .string text => readIntegerText text.toList
  | .null | .array _ | .object _ => .error .notInteger

/-- The position that a value stands for. -/
def readPosition (value : Json) : Except WireFault Position :=
  match readInteger value with
  | .error fault => .error fault
  | .ok n =>
    match Position.ofInt? n with
    | some position => .ok position
    | none => .error .belowOne

/-! ### Reading texts -/

/-- The text that a value is. -/
def readText : Json → Except WireFault String
  | .string text => .ok text
  | _ => .error .notText

/-- The optional text that a value is. -/
def readSnippet : Json → Except WireFault (Option String)
  | .null => .ok none
  | value => (readText value).map some

/-- The optional path that a value writes. -/
def readPath : Json → Except WireFault (Option Path)
  | .null => .ok none
  | .string text => .ok (some (Path.ofString text))
  | _ => .error .notPath

/-! ### Reading findings -/

/-- The fault of a field whose value could not be read. -/
def faultOf {α : Type} (field : WireField) : Except WireFault α → List (WireField × WireFault)
  | .ok _ => []
  | .error fault => [(field, fault)]

/-- The value under the first of two keys that counts as given, or else the one that must stand
under the last key. -/
def readRule (fields : List (String × Json)) : Except WireError Json :=
  let given (key : String) := (Json.lookup? key fields).filter Json.isTruthy
  match given "ruleId" <|> given "rule" <|> Json.lookup? "rule_id" fields with
  | some value => .ok value
  | none => .error (.missing "rule_id")

/-- The severity among fields. -/
def readSeverity (fields : List (String × Json)) : Except WireError Severity :=
  match Json.lookup? "severity" fields with
  | none => .error (.missing "severity")
  | some value =>
    match value with
    | .string name =>
      match Severity.ofName? name with
      | some severity => .ok severity
      | none => .error (.unknownSeverity value)
    | _ => .error (.unknownSeverity value)

/-- The location among fields; a missing position is the first one. -/
def readLocation (fields : List (String × Json)) : Except WireError Location :=
  let value (key : String) (default : Json) := (Json.lookup? key fields).getD default
  let line := readPosition (value "line" (.nat 1))
  let column := readPosition (value "column" (.nat 1))
  let path := readPath (value "path" .null)
  let snippet := readSnippet (value "snippet" .null)
  match line, column, path, snippet with
  | .ok line, .ok column, .ok path, .ok snippet => .ok { line, column, path, snippet }
  | _, _, _, _ =>
    .error (.invalid (faultOf .line line ++ faultOf .column column ++ faultOf .path path
      ++ faultOf .snippet snippet))

/-- The finding that the fields of an object stand for. -/
def ofFields (fields : List (String × Json)) : Except WireError Finding := do
  let rule ← readRule fields
  let severity ← readSeverity fields
  let some message := Json.lookup? "message" fields | .error (.missing "message")
  let location ← readLocation fields
  let value (key : String) := (Json.lookup? key fields).getD (.string "")
  let ruleId := readText rule
  let message := readText message
  let description := readText (value "description")
  let recommendation := readText (value "recommendation")
  match ruleId, message, description, recommendation with
  | .ok ruleId, .ok message, .ok description, .ok recommendation =>
    .ok { ruleId, severity, message, location, description, recommendation }
  | _, _, _, _ =>
    .error (.invalid (faultOf .ruleId ruleId ++ faultOf .message message
      ++ faultOf .description description ++ faultOf .recommendation recommendation))

/-- The finding that a value is the wire form of. -/
def ofJson : Json → Except WireError Finding
  | .object fields => ofFields fields
  | value => .error (.notObject value)

/-- The findings that values are the wire forms of; the first error wins. -/
def ofJsonList : List Json → Except WireError (List Finding)
  | [] => .ok []
  | value :: rest => do
    let finding ← ofJson value
    let findings ← ofJsonList rest
    return finding :: findings

end Finding

end ContractLint
