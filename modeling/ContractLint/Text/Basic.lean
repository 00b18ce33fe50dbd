/-!
# Texts

A text is the list of its characters, so that every scan is a recursion on it.  This module
cuts texts: `Text.lines` at the line feeds, `Text.trim` of the blank characters at both ends, and
`Text.occursIn`, the test that one text stands somewhere inside another.
-/

namespace ContractLint

/-- A text is the list of its characters. -/
abbrev Text := List Char

namespace Text

/-! ### Lines -/

/-- The pieces of a text between its line feeds, in order.  There is always at least one. -/
def lines (text : Text) : List Text :=
  text.splitOn '\n'

/-! ### Blanks -/

/-- The blank characters: Unicode white space and the information separators. -/
def isBlank (c : Char) : Bool :=
  let n := c.toNat
  (0x09 ≤ n && n ≤ 0x0D) || (0x1C ≤ n && n ≤ 0x20) || n == 0x85 || n == 0xA0 || n == 0x1680
    || (0x2000 ≤ n && n ≤ 0x200A) || n == 0x2028 || n == 0x2029 || n == 0x202F || n == 0x205F
    || n == 0x3000

/-- The text from its first character that is not blank. -/
def trimStart (text : Text) : Text :=
  text.dropWhile isBlank

/-- The text up to its last character that is not blank. -/
def trimEnd (text : Text) : Text :=
  (text.reverse.dropWhile isBlank).reverse

/-- The text without the blanks at its two ends. -/
def trim (text : Text) : Text :=
  trimEnd (trimStart text)

/-! ### Occurrences -/

/-- Whether `needle` stands somewhere inside the text. -/
def occursIn (needle : Text) : Text → Bool
  | [] => needle.isEmpty
  | c :: rest => needle.isPrefixOf (c :: rest) || occursIn needle rest

/-- Whether one of the needles stands somewhere inside the text. -/
def anyOccursIn (needles : List Text) (text : Text) : Bool :=
  needles.any fun needle => occursIn needle text

/-- The text before the first character `stop`, or all of it. -/
def before (stop : Char) (text : Text) : Text :=
  text.takeWhile (· != stop)

/-! ### Character ranges -/

/-- Whether the code point of a character lies in one of the closed ranges. -/
def inRanges (ranges : List (Nat × Nat)) (c : Char) : Bool :=
  ranges.any fun (low, high) => low ≤ c.toNat && c.toNat ≤ high

end Text

end ContractLint
