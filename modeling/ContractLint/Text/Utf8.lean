import ContractLint.Text.Basic

/-!
# UTF-8

Octets are decoded one at a time by a machine that is either between characters or inside one,
where it knows how many octets are owed, in which range the next one must lie and the value so
far.  An octet that does not fit ends the character begun, which is then shown as U+FFFD, and is
read again as the start of the next one.  So every maximal ill-formed run of octets becomes one
replacement character and decoding never fails.
-/

namespace ContractLint.Utf8

/-- The character that stands for ill-formed octets. -/
def replacement : Char := '�'

/-- Where the machine stands between two octets. -/
inductive State where
  /-- Between characters. -/
  | ready
  /-- Inside a character: `owed + 1` octets are missing, the next of them between `low` and
  `high`, and `value` holds the bits read so far. -/
  | inside (owed low high value : Nat)
  deriving DecidableEq, Repr

/-- One octet read between characters: the characters it completes and the state after it. -/
def start (octet : Nat) : Text × State :=
  if octet < 0x80 then ([Char.ofNat octet], .ready)
  else if octet < 0xC2 then ([replacement], .ready)
  else if octet < 0xE0 then ([], .inside 0 0x80 0xBF (octet % 32))
  else if octet = 0xE0 then ([], .inside 1 0xA0 0xBF 0)
  else if octet = 0xED then ([], .inside 1 0x80 0x9F 13)
  else if octet < 0xF0 then ([], .inside 1 0x80 0xBF (octet % 16))
  else if octet = 0xF0 then ([], .inside 2 0x90 0xBF 0)
  else if octet < 0xF4 then ([], .inside 2 0x80 0xBF (octet % 8))
  else if octet = 0xF4 then ([], .inside 2 0x80 0x8F 4)
  else ([replacement], .ready)

/-- One octet read in a state: the characters it completes and the state after it. -/
def step : State → Nat → Text × State
  | .ready, octet => start octet
  | .inside owed low high value, octet =>
    if low ≤ octet ∧ octet ≤ high then
      match owed with
      | 0 => ([Char.ofNat (64 * value + octet % 64)], .ready)
      | owed + 1 => ([], .inside owed 0x80 0xBF (64 * value + octet % 64))
    else
      (replacement :: (start octet).1, (start octet).2)

/-- The text of the octets read from a state on. -/
def decodeFrom : State → List Nat → Text
  | .ready, [] => []
  | .inside .., [] => [replacement]
  | state, octet :: rest => (step state octet).1 ++ decodeFrom (step state octet).2 rest

/-- The text of a sequence of octets. -/
def decode (octets : List Nat) : Text :=
  decodeFrom .ready octets

/-- The octets without one leading byte order mark. -/
def dropMark : List Nat → List Nat
  | 0xEF :: 0xBB :: 0xBF :: rest => rest
  | octets => octets

/-- The text of a file that holds the octets. -/
def decodeFile (octets : List Nat) : Text :=
  decode (dropMark octets)

/-- The octets of one character. -/
def encodeChar (c : Char) : List Nat :=
  let n := c.toNat
  if n < 0x80 then [n]
  else if n < 0x800 then [0xC0 + n / 64, 0x80 + n % 64]
  else if n < 0x10000 then [0xE0 + n / 4096, 0x80 + n / 64 % 64, 0x80 + n % 64]
  else [0xF0 + n / 262144, 0x80 + n / 4096 % 64, 0x80 + n / 64 % 64, 0x80 + n % 64]

/-- The octets of a text. -/
def encode (text : Text) : List Nat :=
  text.flatMap encodeChar

end ContractLint.Utf8
