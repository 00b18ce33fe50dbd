import ContractLint.Console.Cells

/-!
# Wrapping

A paragraph is broken between words into lines of at most a number of columns.  A word keeps the
blanks after it, as far as they fit on its line.  A word longer than a line is folded over several
lines or, where that is not wanted, cut with an ellipsis.
-/

namespace ContractLint.Console

/-- What happens to a word that is longer than a line. -/
inductive Overflow where
  /-- It goes on in the next line. -/
  | fold
  /-- It is cut, and an ellipsis shows that. -/
  | ellipsis
  deriving DecidableEq, Repr

/-- Where the text of a line stands. -/
inductive Align where
  /-- At the left, without blanks after it. -/
  | natural
  /-- At the left of a full line. -/
  | left
  /-- At the right. -/
  | right
  /-- In the middle, with an odd blank at the right. -/
  | center
  deriving DecidableEq, Repr

/-! ### Tabs -/

/-- The text with every tab as blanks up to the next multiple of eight columns, from a column on. -/
def expandTabsFrom : Nat → Text → Text
  | _, [] => []
  | column, c :: rest =>
    if c = '\t' then
      blanks (8 - column % 8) ++ expandTabsFrom (column + (8 - column % 8)) rest
    else c :: expandTabsFrom (column + charCells c) rest

/-! ### Words -/

/-- The words of a text, each with the blanks after it; blanks before the first word belong to it.
The flag says whether a word and a blank come right before the text, so that the next character
that is not blank begins a word. -/
def wordsFrom : Bool → Text → List Text
  | _, [] => [[]]
  | afterGap, c :: rest =>
    let starts := afterGap && !Text.isBlank c
    match wordsFrom (Text.isBlank c) rest with
    | [] => if starts then [[], [c]] else [[c]]
    | word :: later => if starts then [] :: (c :: word) :: later else (c :: word) :: later

/-- The words of a text, each with the blanks after it; blanks before the first word belong to
it. -/
def words (text : Text) : List Text :=
  let lead := text.takeWhile Text.isBlank
  match wordsFrom false (text.dropWhile Text.isBlank) with
  | [] => []
  | first :: later => if first.isEmpty then [] else (lead ++ first) :: later

/-- The text in pieces of at most a number of columns, where `room` columns are left for the first
piece. -/
def chopFrom (width : Nat) : Nat → Text → List Text
  | _, [] => [[]]
  | room, c :: rest =>
    if charCells c ≤ room then
      match chopFrom width (room - charCells c) rest with
      | [] => [[c]]
      | piece :: pieces => (c :: piece) :: pieces
    else
      match chopFrom width (width - charCells c) rest with
      | [] => [[], [c]]
      | piece :: pieces => [] :: (c :: piece) :: pieces

/-- The text in pieces of at most a number of columns. -/
def chop (width : Nat) (text : Text) : List Text :=
  chopFrom width width text

/-! ### Lines -/

/-- The lines set so far, the last one apart. -/
structure Broken where
  /-- The finished lines, the last one first. -/
  done : List Text
  /-- The line being set. -/
  current : Text
  /-- The columns that the words on it take. -/
  used : Nat

namespace Broken

/-- The line being set is finished, unless nothing is on it, and a piece begins the next one. -/
def startLine (broken : Broken) (piece : Text) : Broken where
  done := if broken.current.isEmpty then broken.done else broken.current :: broken.done
  current := piece
  used := cells piece

/-- The next word is set. -/
def addWord (overflow : Overflow) (width : Nat) (broken : Broken) (word : Text) : Broken :=
  let size := cells (Text.trimEnd word)
  if broken.used + size ≤ width then
    { broken with current := broken.current ++ word, used := broken.used + cells word }
  else if width < size && overflow == .fold then (chop width word).foldl startLine broken
  else broken.startLine word

/-- The lines in order. -/
def lines (broken : Broken) : List Text :=
  (broken.current :: broken.done).reverse

end Broken

/-- The lines of a paragraph. -/
def breakLine (overflow : Overflow) (width : Nat) (text : Text) : List Text :=
  match words text with
  | [] => [text]
  | first :: rest => ((first :: rest).foldl (Broken.addWord overflow width) ⟨[], [], 0⟩).lines

/-- The line without blanks at its end, as far as it is longer than a number of characters. -/
def trimExcess (width : Nat) (line : Text) : Text :=
  let trailing := (line.reverse.takeWhile Text.isBlank).length
  line.take (line.length - min trailing (line.length - width))

/-- The line cut to a number of columns. -/
def truncate (overflow : Overflow) (width : Nat) (line : Text) : Text :=
  if cells line ≤ width then line
  else
    match overflow with
    | .fold => fit width line
    | .ellipsis => fit (width - 1) line ++ ['…']

/-- The line at its place in a number of columns. -/
def align (overflow : Overflow) (alignment : Align) (width : Nat) (line : Text) : Text :=
  match alignment with
  | .natural => line
  | .left => padEnd width (truncate overflow width line)
  | .right =>
    let line := truncate overflow width (Text.trimEnd line)
    blanks (width - cells line) ++ line
  | .center =>
    let line := truncate overflow width (Text.trimEnd line)
    padEnd width (blanks ((width - cells line) / 2) ++ line)

/-- The lines of a paragraph, wrapped or not. -/
def layLine (overflow : Overflow) (alignment : Align) (noWrap : Bool) (width : Nat)
    (text : Text) : List Text :=
  let text := expandTabsFrom 0 text
  let broken := if noWrap then [text] else breakLine overflow width text
  broken.map fun line =>
    truncate overflow width (align overflow alignment width (trimExcess width line))

/-- The lines of a text in a number of columns; there is none without any column. -/
def layText (overflow : Overflow) (alignment : Align) (noWrap : Bool) (width : Nat)
    (text : Text) : List Text :=
  if width = 0 then []
  else (Text.lines (printable text)).flatMap (layLine overflow alignment noWrap width)

/-- The lines of a text that is printed by itself. -/
def paragraph (width : Nat) (text : Text) : List Text :=
  layText .fold .natural false width text

end ContractLint.Console
