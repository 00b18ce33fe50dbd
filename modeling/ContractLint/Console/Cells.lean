import ContractLint.Text.Basic
import ContractLint.Text.WidthRanges

/-!
# Columns of a terminal

How many columns a text takes on a terminal, and cutting and padding it to a number of columns.
-/

namespace ContractLint.Console

/-- The number of columns of a character. -/
def charCells (c : Char) : Nat :=
  if c.toNat < 0x20 || (0x7F ≤ c.toNat && c.toNat < 0xA0) then 0
  else if c.toNat < 0x300 then 1
  else if Text.inRanges Text.combiningRanges c then 0
  else if Text.inRanges Text.wideRanges c then 2
  else 1

/-- The sum of some widths. -/
def total : List Nat → Nat
  | [] => 0
  | width :: rest => width + total rest

/-- The number of columns of a text. -/
def cells (text : Text) : Nat :=
  total (text.map charCells)

/-- A number of blanks. -/
def blanks (count : Nat) : Text :=
  List.replicate count ' '

/-- The text with blanks up to a number of columns. -/
def padEnd (width : Nat) (text : Text) : Text :=
  text ++ blanks (width - cells text)

/-- The front of a text that takes at most a number of columns. -/
def crop : Nat → Text → Text
  | _, [] => []
  | room, c :: rest => if charCells c ≤ room then c :: crop (room - charCells c) rest else []

/-- The text cut or padded to a number of columns. -/
def fit (width : Nat) (text : Text) : Text :=
  padEnd width (crop width text)

/-- The text without the control characters that move the cursor or ring the bell; a tab and a line
feed stay. -/
def printable (text : Text) : Text :=
  text.filter fun c => !([0x07, 0x08, 0x0B, 0x0C, 0x0D].contains c.toNat)

end ContractLint.Console
