import ContractLint.Position
import ContractLint.Text.Basic

/-!
# Sources

A source is a contract text made ready for scanning: its line breaks are unified, its tabs are
expanded, the blanks around it are dropped and its lines are trimmed.  Dropping the blanks in front
may drop whole lines; their number is kept, so that every line still knows its position in the
text as it was given.
-/

namespace ContractLint

/-- One line of a contract text. -/
abbrev Line := Text

namespace Text

/-- The text with every carriage return, alone or before a line feed, as one line feed. -/
def unifyBreaks : Text → Text
  | [] => []
  | '\r' :: '\n' :: rest => '\n' :: unifyBreaks rest
  | c :: rest => (if c = '\r' then '\n' else c) :: unifyBreaks rest

/-- The text with every tab as four blanks. -/
def expandTabs (text : Text) : Text :=
  text.flatMap fun c => if c = '\t' then [' ', ' ', ' ', ' '] else [c]

/-- The normal form of a text: unified line breaks, no tabs, no blanks around it. -/
def normalize (text : Text) : Text :=
  trim (expandTabs (unifyBreaks text))

/-- The number of whole lines before the first line that is not blank, zero if all are. -/
def leadingLines (text : Text) : Nat :=
  let unified := unifyBreaks text
  if (trimStart unified).isEmpty then 0 else (unified.takeWhile isBlank).count '\n'

/-- The lines of a text, each trimmed. -/
def trimmedLines (text : Text) : List Line :=
  (lines text).map trim

end Text

/-- A contract text made ready for scanning. -/
structure Source where
  /-- The trimmed lines of the normal form. -/
  lines : List Line
  /-- The number of lines of the given text before the first of them. -/
  offset : Nat
  deriving DecidableEq

namespace Source

/-- The source of a text. -/
def ofText (text : Text) : Source where
  lines := Text.trimmedLines (Text.normalize text)
  offset := Text.leadingLines text

/-- The position in the given text of the line with an index. -/
def position (source : Source) (index : Nat) : Position :=
  ⟨index + source.offset⟩

/-- The number in the given text of the line with an index, which may lie before the first. -/
def lineNumber (source : Source) (index : Int) : Int :=
  index + 1 + source.offset

end Source

end ContractLint
