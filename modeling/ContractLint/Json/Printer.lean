import ContractLint.Json.Basic
import ContractLint.Text.Quoted

/-!
# Writing JSON

A value is written on one line or with every item on a line of its own.  The text is ASCII: other
characters are escaped by their UTF-16 units, and so is half of a character.
-/

namespace ContractLint.Json

/-- The escape of a UTF-16 unit. -/
def unitEscape (unit : Nat) : Text :=
  '\\' :: 'u' :: Text.hexDigits 4 unit

/-- One character inside a JSON string. -/
def escapeChar (c : Char) : Text :=
  if c = '"' || c = '\\' then ['\\', c]
  else if c = '\n' then ['\\', 'n']
  else if c = '\r' then ['\\', 'r']
  else if c = '\t' then ['\\', 't']
  else if c.toNat = 0x08 then ['\\', 'b']
  else if c.toNat = 0x0C then ['\\', 'f']
  else if 0x20 ≤ c.toNat && c.toNat < 0x7F then [c]
  else if c.toNat < 0x10000 then unitEscape c.toNat
  else
    unitEscape (0xD800 + (c.toNat - 0x10000) / 0x400)
      ++ unitEscape (0xDC00 + (c.toNat - 0x10000) % 0x400)

/-- One code point inside a JSON string. -/
def escapeGlyph : Glyph → Text
  | .char c => escapeChar c
  | .surrogate half => unitEscape half.code

/-- A raw text as a JSON string. -/
def writeString (text : RawText) : Text :=
  '"' :: text.flatMap escapeGlyph ++ ['"']

/-- How the items of arrays and objects are laid out. -/
inductive Style where
  /-- Everything on one line. -/
  | line
  /-- An item per line, indented by `width` blanks for every level. -/
  | indented (width : Nat)
  deriving DecidableEq, Repr

/-- The style that an optional indentation asks for; a negative one indents by nothing. -/
def Style.ofIndent : Option Int → Style
  | none => .line
  | some width => .indented width.toNat

/-- What goes before the first item and after the last one at a depth. -/
def Style.lineBreak (style : Style) (depth : Nat) : Text :=
  match style with
  | .line => []
  | .indented width => '\n' :: List.replicate (width * depth) ' '

/-- What goes between two items at a depth. -/
def Style.separator (style : Style) (depth : Nat) : Text :=
  match style with
  | .line => [',', ' ']
  | .indented _ => ',' :: style.lineBreak depth

/-- A number as JSON. -/
def writeNumber : Number → Text
  | .integer n => Text.ofInt n
  | .real x => x.display

variable {σ : Type} [RawString σ]

mutual

/-- A value in a style, where its items stand at the next depth. -/
def write (style : Style) (depth : Nat) : Json σ → Text
  | .null => "null".toList
  | .bool true => "true".toList
  | .bool false => "false".toList
  | .number n => writeNumber n
  | .string text => writeString (RawString.toRaw text)
  | .array [] => ['[', ']']
  | .array (first :: rest) =>
    '[' :: style.lineBreak (depth + 1) ++ write style (depth + 1) first
      ++ writeItems style (depth + 1) rest ++ style.lineBreak depth ++ [']']
  | .object [] => ['\x7b', '\x7d']
  | .object ((key, first) :: rest) =>
    '\x7b' :: style.lineBreak (depth + 1) ++ writeString (RawString.toRaw key) ++ [':', ' ']
      ++ write style (depth + 1) first
      ++ writeFields style (depth + 1) rest ++ style.lineBreak depth ++ ['\x7d']

/-- The items after the first one, each after a separator. -/
def writeItems (style : Style) (depth : Nat) : List (Json σ) → Text
  | [] => []
  | item :: rest =>
    style.separator depth ++ write style depth item ++ writeItems style depth rest

/-- The fields after the first one, each after a separator. -/
def writeFields (style : Style) (depth : Nat) : List (σ × Json σ) → Text
  | [] => []
  | (key, value) :: rest =>
    style.separator depth ++ writeString (RawString.toRaw key) ++ [':', ' ']
      ++ write style depth value
      ++ writeFields style depth rest

end

/-- The text of a value in a style. -/
def render (style : Style) (value : Json σ) : String :=
  String.ofList (write style 0 value)

end ContractLint.Json
