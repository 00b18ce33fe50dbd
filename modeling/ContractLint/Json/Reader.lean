import ContractLint.Json.Basic

/-!
# Reading JSON

`Json.read` reads a raw text that holds one value and nothing else but blanks.  Strings may hold no
control character; half of a character may stand in a string, by itself or as an escape.  The names
`NaN` and `Infinity` are read as numbers, and of two fields with the same key the last one counts.

There may be limits to what is read: integers with more digits than allowed are refused like any
other malformed text, and arrays and objects that are nested deeper than allowed end the reading in
a way of its own.
-/

namespace ContractLint.Json

/-! ### Limits -/

/-- What may be read. -/
structure Limits where
  /-- The most digits of an integer, if there is a limit. -/
  digits : Option Nat := none
  /-- How many arrays and objects may be nested, if there is a limit. -/
  depth : Option Nat := none
  deriving DecidableEq, Repr

namespace Limits

/-- Whether an integer with these digits may be read. -/
def admits (limits : Limits) (digits : Text) : Bool :=
  limits.digits.all fun most => digits.length ≤ most

/-- The limits inside an array or an object, if there may be one. -/
def enter? (limits : Limits) : Option Limits :=
  match limits.depth with
  | none => some limits
  | some 0 => none
  | some (depth + 1) => some { limits with depth := some depth }

end Limits

/-- Why a text is not read. -/
inductive ReadFault where
  /-- It holds no value, or an integer with too many digits. -/
  | malformed
  /-- Arrays and objects are nested too deep. -/
  | tooDeep
  deriving DecidableEq, Repr

/-- What was read, and the fault of malformed text if it was nothing. -/
def orMalformed {α : Type} : Option α → Except ReadFault α
  | some read => .ok read
  | none => .error .malformed

/-! ### Strings -/

/-- The blanks between the tokens of JSON. -/
def isSpace : Glyph → Bool
  | .char c => c == ' ' || c == '\t' || c == '\n' || c == '\r'
  | .surrogate _ => false

/-- The text from its first code point that is no blank. -/
def skipSpace (text : RawText) : RawText :=
  text.dropWhile isSpace

/-- The value of a hexadecimal digit. -/
def hexValue? : Glyph → Option Nat
  | .char c =>
    if '0' ≤ c && c ≤ '9' then some (c.toNat - '0'.toNat)
    else if 'a' ≤ c && c ≤ 'f' then some (c.toNat - 'a'.toNat + 10)
    else if 'A' ≤ c && c ≤ 'F' then some (c.toNat - 'A'.toNat + 10)
    else none
  | .surrogate _ => none

/-- The number that four hexadecimal digits write. -/
def hexUnit? (a b c d : Glyph) : Option Nat := do
  let a ← hexValue? a
  let b ← hexValue? b
  let c ← hexValue? c
  let d ← hexValue? d
  return 4096 * a + 256 * b + 16 * c + d

/-- The character that a short escape stands for. -/
def shortEscape? (c : Char) : Option Char :=
  match c with
  | '"' => some '"'
  | '\\' => some '\\'
  | '/' => some '/'
  | 'b' => some '\x08'
  | 'f' => some '\x0c'
  | 'n' => some '\n'
  | 'r' => some '\r'
  | 't' => some '\t'
  | _ => none

/-- A part of a string: a code point, or an escape with the number of a UTF-16 unit. -/
inductive StringPart where
  | glyph (glyph : Glyph)
  | unit (unit : Nat)
  deriving DecidableEq

/-- The parts of a string after its opening quote, and the text after its closing quote. -/
def readParts : RawText → Option (List StringPart × RawText)
  | [] => none
  | .char '"' :: rest => some ([], rest)
  | .char '\\' :: .char 'u' :: a :: b :: c :: d :: rest =>
    match hexUnit? a b c d, readParts rest with
    | some unit, some (parts, after) => some (.unit unit :: parts, after)
    | _, _ => none
  | .char '\\' :: .char c :: rest =>
    match shortEscape? c, readParts rest with
    | some e, some (parts, after) => some (.glyph (.char e) :: parts, after)
    | _, _ => none
  | .char c :: rest =>
    if c.toNat < 0x20 || c = '\\' then none
    else
      match readParts rest with
      | some (parts, after) => some (.glyph (.char c) :: parts, after)
      | none => none
  | .surrogate half :: rest =>
    match readParts rest with
    | some (parts, after) => some (.glyph (.surrogate half) :: parts, after)
    | none => none

/-- The code points of parts.  The escapes of a leading and a trailing surrogate make one
character. -/
def joinParts : List StringPart → RawText
  | [] => []
  | .glyph glyph :: rest => glyph :: joinParts rest
  | .unit high :: .unit low :: rest =>
    if 0xD800 ≤ high && high < 0xDC00 && 0xDC00 ≤ low && low < 0xE000 then
      .char (.ofNat (0x10000 + (high - 0xD800) * 0x400 + (low - 0xDC00))) :: joinParts rest
    else .ofCode high :: joinParts (.unit low :: rest)
  | .unit unit :: rest => .ofCode unit :: joinParts rest

/-- The string after an opening quote, and the text after its closing quote. -/
def readString (text : RawText) : Option (RawText × RawText) :=
  (readParts text).map fun (parts, rest) => (joinParts parts, rest)

/-! ### Numbers and words -/

/-- Whether a code point is an ASCII digit. -/
def isDigit : Glyph → Bool
  | .char c => c.isDigit
  | .surrogate _ => false

/-- The digits at the front of a text, at least one, and the rest. -/
def readDigits (text : RawText) : Option (Text × RawText) :=
  let digits := text.takeWhile isDigit
  if digits.isEmpty then none else some (RawText.face digits, text.dropWhile isDigit)

/-- The number that ASCII digits write. -/
def digitsValue (digits : Text) : Nat :=
  digits.foldl (fun total c => 10 * total + (c.toNat - '0'.toNat)) 0

/-- The fraction digits at the front of a text, none without a point and a digit after it. -/
def readFraction : RawText → Option (Text × RawText)
  | .char '.' :: rest => readDigits rest
  | _ => none

/-- The exponent at the front of a text. -/
def readExponent : RawText → Option (Int × RawText)
  | .char e :: rest =>
    if e = 'e' || e = 'E' then
      match rest with
      | .char '-' :: digits =>
        (readDigits digits).map fun (ds, after) => (-(digitsValue ds : Int), after)
      | .char '+' :: digits =>
        (readDigits digits).map fun (ds, after) => ((digitsValue ds : Int), after)
      | digits => (readDigits digits).map fun (ds, after) => ((digitsValue ds : Int), after)
    else none
  | _ => none

/-- The digits before the point: a single zero or digits that do not start with zero. -/
def readWhole : RawText → Option (Text × RawText)
  | .char '0' :: rest => some (['0'], rest)
  | text => readDigits text

/-- The number at the front of a text, after its sign. -/
def readUnsigned (limits : Limits) (negative : Bool) (text : RawText) :
    Option (Number × RawText) :=
  match readWhole text with
  | none => none
  | some (whole, rest) =>
    let fraction := readFraction rest
    let digits := (fraction.map (·.1)).getD []
    let afterFraction := (fraction.map (·.2)).getD rest
    let exponent := readExponent afterFraction
    if fraction.isNone && exponent.isNone then
      if limits.admits whole then
        let n : Int := digitsValue whole
        some (.integer (if negative then -n else n), rest)
      else none
    else
      let power := (exponent.map (·.1)).getD 0
      let mantissa := digitsValue (whole ++ digits)
      some (.real (.ofDecimal negative mantissa (power - digits.length)),
        (exponent.map (·.2)).getD afterFraction)

/-- The words that are values, with the value that each stands for. -/
def words : List (Text × Json RawText) :=
  [("null".toList, .null), ("true".toList, .bool true), ("false".toList, .bool false),
    ("NaN".toList, .number (.real .undefined)),
    ("Infinity".toList, .number (.real (.infinite false))),
    ("-Infinity".toList, .number (.real (.infinite true)))]

/-- The word or number at the front of a text. -/
def readAtom (limits : Limits) (text : RawText) : Option (Json RawText × RawText) :=
  match words.find? fun (word, _) => (RawText.ofText word).isPrefixOf text with
  | some (word, value) => some (value, text.drop word.length)
  | none =>
    match text with
    | .char '-' :: rest =>
      (readUnsigned limits true rest).map fun (n, after) => (.number n, after)
    | _ => (readUnsigned limits false text).map fun (n, after) => (.number n, after)

/-! ### Values -/

mutual

/-- The value at the front of a text and the rest, with at most `fuel` steps inside each other. -/
def readValue : Nat → Limits → RawText → Except ReadFault (Json RawText × RawText)
  | 0, _, _ => .error .malformed
  | _ + 1, _, .char '"' :: rest =>
    orMalformed ((readString rest).map fun (s, after) => (.string s, after))
  | fuel + 1, limits, .char '[' :: rest =>
    match limits.enter? with
    | none => .error .tooDeep
    | some inner =>
      match skipSpace rest with
      | .char ']' :: after => .ok (.array [], after)
      | items => (readItems fuel inner items).map fun (items, after) => (.array items, after)
  | fuel + 1, limits, .char '\x7b' :: rest =>
    match limits.enter? with
    | none => .error .tooDeep
    | some inner =>
      match skipSpace rest with
      | .char '\x7d' :: after => .ok (.object [], after)
      | fields =>
        (readFields fuel inner [] fields).map fun (fields, after) => (.object fields, after)
  | _ + 1, limits, text => orMalformed (readAtom limits text)

/-- The items of an array up to its closing bracket. -/
def readItems : Nat → Limits → RawText → Except ReadFault (List (Json RawText) × RawText)
  | 0, _, _ => .error .malformed
  | fuel + 1, limits, text =>
    match readValue fuel limits text with
    | .error fault => .error fault
    | .ok (item, rest) =>
      match skipSpace rest with
      | .char ',' :: more =>
        (readItems fuel limits (skipSpace more)).map fun (items, after) => (item :: items, after)
      | .char ']' :: after => .ok ([item], after)
      | _ => .error .malformed

/-- The fields of an object up to its closing brace, added to those already read. -/
def readFields : Nat → Limits → List (RawText × Json RawText) → RawText →
    Except ReadFault (List (RawText × Json RawText) × RawText)
  | 0, _, _, _ => .error .malformed
  | fuel + 1, limits, fields, .char '"' :: text =>
    match readString text with
    | none => .error .malformed
    | some (key, rest) =>
      match skipSpace rest with
      | .char ':' :: more =>
        match readValue fuel limits (skipSpace more) with
        | .error fault => .error fault
        | .ok (value, rest) =>
          match skipSpace rest with
          | .char ',' :: more => readFields fuel limits (setField key value fields) (skipSpace more)
          | .char '\x7d' :: after => .ok (setField key value fields, after)
          | _ => .error .malformed
      | _ => .error .malformed
  | _ + 1, _, _, _ => .error .malformed

end

/-- The value that a raw text holds, with blanks around it. -/
def read (limits : Limits) (text : RawText) : Except ReadFault (Json RawText) :=
  match readValue (2 * text.length + 2) limits (skipSpace text) with
  | .ok (value, rest) => if (skipSpace rest).isEmpty then .ok value else .error .malformed
  | .error fault => .error fault

/-- The value without surrogates that a text holds. -/
def parse? (text : Text) : Option Json :=
  (read {} (.ofText text)).toOption.bind plain?

end ContractLint.Json
