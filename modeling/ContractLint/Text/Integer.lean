import ContractLint.Text.Digit

/-!
# Reading integers

Integers are written with an optional sign and digits, where single underscores may stand
between digits.  The digits that count are a parameter: `Text.integer?` takes those of every
script and trims blanks first, as for a number typed by hand.
-/

namespace ContractLint.Text

/-- The number written by the digits of the text after digits of value `total`.  The flag says
whether a digit comes right before, so that an underscore or the end may follow. -/
def digitsFrom? (value? : Char → Option Nat) : Nat → Bool → Text → Option Nat
  | total, afterDigit, [] => if afterDigit then some total else none
  | total, afterDigit, c :: rest =>
    if c = '_' then
      if afterDigit then digitsFrom? value? total false rest else none
    else
      match value? c with
      | some digit => digitsFrom? value? (10 * total + digit) true rest
      | none => none

/-- The number written by digits with single underscores between them. -/
def natural? (value? : Char → Option Nat) (text : Text) : Option Nat :=
  digitsFrom? value? 0 false text

/-- The integer written by an optional sign and digits. -/
def signed? (value? : Char → Option Nat) : Text → Option Int
  | '-' :: rest => (natural? value? rest).map fun n => -(n : Int)
  | '+' :: rest => (natural? value? rest).map fun n => (n : Int)
  | text => (natural? value? text).map fun n => (n : Int)

/-- The blanks that may stand around a number: white space without the information separators. -/
def isMargin (c : Char) : Bool :=
  isBlank c && !(0x1C ≤ c.toNat && c.toNat ≤ 0x1F)

/-- The text without the blanks around a number. -/
def dropMargins (text : Text) : Text :=
  ((text.dropWhile isMargin).reverse.dropWhile isMargin).reverse

/-- The integer a text holds between blanks, in digits of any script. -/
def integer? (text : Text) : Option Int :=
  signed? digitValue? (dropMargins text)

/-- The value of an ASCII digit. -/
def asciiDigit? (c : Char) : Option Nat :=
  if c.isDigit then some (c.toNat - '0'.toNat) else none

/-- The decimal digits of an integer, with a minus sign when it is negative. -/
def ofInt (n : Int) : Text :=
  if n < 0 then '-' :: Nat.toDigits 10 n.natAbs else Nat.toDigits 10 n.natAbs

end ContractLint.Text
