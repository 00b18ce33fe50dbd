import ContractLint.Number.Rounding
import ContractLint.Text.Integer

/-!
# Binary floating-point numbers

Numbers with a fraction or an exponent are kept to 53 binary digits.  `Binary64.ofDecimal` rounds
a decimal to the nearest such number, a tie to the even neighbour; `Binary64.shortest` finds the
fewest decimal digits that round back to it, and `Binary64.display` writes them.  A database keeps
a number as a text with fifteen digits, `Binary64.stored?`.
-/

namespace ContractLint

/-- A binary number `mantissa * 2 ^ exponent` with a sign, an infinity, or no number at all. -/
inductive Binary64 where
  /-- The number `mantissa * 2 ^ exponent` with the given sign. -/
  | finite (negative : Bool) (mantissa : Nat) (exponent : Int)
  /-- An infinity. -/
  | infinite (negative : Bool)
  /-- Not a number. -/
  | undefined
  deriving DecidableEq, Repr

namespace Binary64

/-- The fraction `num / den * base ^ exponent` as numerator and denominator. -/
def scale (base num den : Nat) (exponent : Int) : Nat × Nat :=
  if 0 ≤ exponent then (num * Nat.pow base exponent.toNat, den)
  else (num, den * Nat.pow base (-exponent).toNat)

/-- The positive fraction `num / den` rounded to 53 binary digits. -/
def ofFraction (negative : Bool) (num den : Nat) : Binary64 :=
  let guess : Int := (num.log2 : Int) - den.log2 - 52
  let (n, d) := scale 2 num den (-guess)
  let exponent := max (if n < d * Nat.pow 2 52 then guess - 1 else guess) (-1074)
  let (n, d) := scale 2 num den (-exponent)
  let mantissa := roundQuotient n d
  let (mantissa, exponent) :=
    if mantissa = Nat.pow 2 53 then (Nat.pow 2 52, exponent + 1) else (mantissa, exponent)
  if 971 < exponent then .infinite negative
  else if mantissa = 0 then .finite negative 0 0
  else .finite negative mantissa exponent

/-- The decimal `digits * 10 ^ exponent` rounded to 53 binary digits. -/
def ofDecimal (negative : Bool) (digits : Nat) (exponent : Int) : Binary64 :=
  let size : Int := (Nat.toDigits 10 digits).length
  if digits = 0 || size + exponent < -400 then .finite negative 0 0
  else if 400 < size + exponent then .infinite negative
  else
    let (num, den) := scale 10 digits 1 exponent
    ofFraction negative num den

/-- Whether the number is zero, with either sign. -/
def isZero : Binary64 → Bool
  | .finite _ mantissa _ => mantissa == 0
  | _ => false

/-- The integer that the number is, if it has no fraction. -/
def integer? : Binary64 → Option Int
  | .finite negative mantissa exponent =>
    let (num, den) := scale 2 mantissa 1 exponent
    if num % den = 0 then
      some (if negative then -((num / den : Nat) : Int) else ((num / den : Nat) : Int))
    else none
  | _ => none

/-- The exponent of the first decimal digit of the positive fraction `num / den`. -/
def leadingExponent (num den : Nat) : Int :=
  if den ≤ num then (Nat.toDigits 10 (num / den)).length - 1
  else
    let size := (Nat.toDigits 10 (den / num)).length
    if den ≤ num * Nat.pow 10 (size - 1) then -((size : Int) - 1) else -(size : Int)

/-- Of the two decimals with the given last place around `num / den`, the nearer one that rounds
back to the number. -/
def decimalAt? (number : Binary64) (negative : Bool) (num den : Nat) (place : Int) :
    Option Nat :=
  let (n, d) := scale 10 num den (-place)
  let low := n / d
  let readsBack (digits : Nat) : Bool := decide (ofDecimal negative digits place = number)
  let nearest := roundQuotient n d
  let other := if nearest = low then low + 1 else low
  if readsBack nearest then some nearest
  else if readsBack other then some other
  else none

/-- The digits and the last place of the shortest decimal that rounds back to the positive number
`num / den`, searched from one digit up to seventeen. -/
def shortest (number : Binary64) (negative : Bool) (num den : Nat) : Nat × Int :=
  let first := leadingExponent num den
  let found := (List.range 17).findSome? fun (more : Nat) =>
    (decimalAt? number negative num den (first - more)).map fun digits => (digits, first - more)
  found.getD (0, 0)

/-- How decimals are written. -/
structure DecimalStyle where
  /-- The largest exponent of the first digit without an exponent being written. -/
  largest : Int
  /-- Whether there is a point before every exponent. -/
  keepsPoint : Bool

/-- The digits of a positive decimal written out: positional when the exponent of the first digit
is not below -4 and not above the largest one, and with a two-digit exponent otherwise. -/
def writeDecimal (style : DecimalStyle) (digits : Nat) (place : Int) : Text :=
  let written := Nat.toDigits 10 digits
  let first : Int := place + written.length - 1
  -- Final zeros are not significant.
  let core := (written.reverse.dropWhile (· == '0')).reverse
  if first < -4 || style.largest < first then
    let fraction :=
      if 1 < core.length then '.' :: core.drop 1 else if style.keepsPoint then ['.', '0'] else []
    let exponent := Nat.toDigits 10 first.natAbs
    let exponent := if exponent.length < 2 then '0' :: exponent else exponent
    core.take 1 ++ fraction ++ ['e', if first < 0 then '-' else '+'] ++ exponent
  else if first < 0 then
    ['0', '.'] ++ List.replicate (-first - 1).toNat '0' ++ core
  else
    let whole := first.toNat + 1
    let padded := core ++ List.replicate (whole - core.length) '0'
    let fraction := padded.drop whole
    padded.take whole ++ ['.'] ++ (if fraction.isEmpty then ['0'] else fraction)

/-- The text of a number: the fewest digits that read back. -/
def display : Binary64 → Text
  | .undefined => "nan".toList
  | .infinite negative => if negative then "-inf".toList else "inf".toList
  | .finite negative mantissa exponent =>
    let sign : Text := if negative then ['-'] else []
    if mantissa = 0 then sign ++ "0.0".toList
    else
      let (num, den) := scale 2 mantissa 1 exponent
      let (digits, place) := shortest (.finite negative mantissa exponent) negative num den
      sign ++ writeDecimal { largest := 15, keepsPoint := false } digits place

/-- The text under which a database keeps a number, none for what is not a number. -/
def stored? : Binary64 → Option Text
  | .undefined => none
  | .infinite negative => some (if negative then "-Inf".toList else "Inf".toList)
  | .finite negative mantissa exponent =>
    if mantissa = 0 then some "0.0".toList
    else
      let (num, den) := scale 2 mantissa 1 exponent
      let place := leadingExponent num den - 14
      let (n, d) := scale 10 num den (-place)
      let sign : Text := if negative then ['-'] else []
      some (sign
        ++ writeDecimal { largest := 14, keepsPoint := true } ((2 * n + d) / (2 * d)) place)

end Binary64

end ContractLint
