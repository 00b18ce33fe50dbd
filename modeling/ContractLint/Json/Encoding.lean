import ContractLint.Json.Reader

/-!
# Octets of JSON texts

The octets of a JSON text are in UTF-8, UTF-16 or UTF-32.  Which it is shows from a byte order mark
or, without one, from the zero octets among the first four.  A surrogate may be encoded like any
other code point; other ill-formed octets are no text.
-/

namespace ContractLint

/-- In which order the octets of a number are. -/
inductive ByteOrder where
  | big
  | little
  deriving DecidableEq, Repr

/-- The number that octets stand for. -/
def ByteOrder.value (order : ByteOrder) (octets : List Nat) : Nat :=
  let ordered :=
    match order with
    | .big => octets
    | .little => octets.reverse
  ordered.foldl (fun total octet => 256 * total + octet) 0

/-- An encoding of texts. -/
inductive Encoding where
  | utf8
  | utf16 (order : ByteOrder)
  | utf32 (order : ByteOrder)
  deriving DecidableEq, Repr

namespace Encoding

/-- The encoding of a JSON text without a byte order mark. -/
def ofZeros : List Nat → Encoding
  | 0 :: 0 :: _ :: _ :: _ => .utf32 .big
  | 0 :: _ :: _ :: _ :: _ => .utf16 .big
  | _ :: 0 :: 0 :: 0 :: _ => .utf32 .little
  | _ :: 0 :: _ :: _ :: _ => .utf16 .little
  | [0, _] => .utf16 .big
  | [_, 0] => .utf16 .little
  | _ => .utf8

/-- The encoding of a JSON text, and its octets without a byte order mark. -/
def detect : List Nat → Encoding × List Nat
  | 0x00 :: 0x00 :: 0xFE :: 0xFF :: rest => (.utf32 .big, rest)
  | 0xFF :: 0xFE :: 0x00 :: 0x00 :: rest => (.utf32 .little, rest)
  | 0xFE :: 0xFF :: rest => (.utf16 .big, rest)
  | 0xFF :: 0xFE :: rest => (.utf16 .little, rest)
  | 0xEF :: 0xBB :: 0xBF :: rest => (.utf8, rest)
  | octets => (ofZeros octets, octets)

/-- The code point of a first octet without its marks and the octets that follow it, which must all
carry six bits. -/
def joinOctets (first : Nat) (others : List Nat) : Option Nat :=
  if others.all fun octet => 0x80 ≤ octet && octet < 0xC0 then
    some (others.foldl (fun total octet => 64 * total + (octet - 0x80)) first)
  else none

/-- The code point, if it is between two bounds. -/
def between (low high : Nat) (code : Nat) : Option Glyph :=
  if low ≤ code && code < high then some (.ofCode code) else none

/-- The raw text of octets in UTF-8. -/
def decodeUtf8 : List Nat → Option RawText
  | [] => some []
  | a :: rest =>
    if a < 0x80 then (decodeUtf8 rest).map (.ofCode a :: ·)
    else if a < 0xE0 then
      match rest with
      | b :: rest => do
        let glyph ← (joinOctets (a - 0xC0) [b]).bind (between 0x80 0x800)
        return glyph :: (← decodeUtf8 rest)
      | _ => none
    else if a < 0xF0 then
      match rest with
      | b :: c :: rest => do
        let glyph ← (joinOctets (a - 0xE0) [b, c]).bind (between 0x800 0x10000)
        return glyph :: (← decodeUtf8 rest)
      | _ => none
    else
      match rest with
      | b :: c :: d :: rest => do
        let glyph ← (joinOctets (a - 0xF0) [b, c, d]).bind (between 0x10000 0x110000)
        return glyph :: (← decodeUtf8 rest)
      | _ => none

/-- The units of octets in UTF-16. -/
def unitsOf (order : ByteOrder) : List Nat → Option (List Json.StringPart)
  | [] => some []
  | a :: b :: rest => (unitsOf order rest).map (.unit (order.value [a, b]) :: ·)
  | _ => none

/-- The raw text of octets in UTF-32. -/
def decodeUtf32 (order : ByteOrder) : List Nat → Option RawText
  | [] => some []
  | a :: b :: c :: d :: rest => do
    let glyph ← between 0 0x110000 (order.value [a, b, c, d])
    return glyph :: (← decodeUtf32 order rest)
  | _ => none

/-- The raw text of octets. -/
def decode? : Encoding → List Nat → Option RawText
  | .utf8, octets => decodeUtf8 octets
  | .utf16 order, octets => (unitsOf order octets).map Json.joinParts
  | .utf32 order, octets => decodeUtf32 order octets

end Encoding

/-- The value that the octets of a JSON text hold. -/
def Json.readOctets (limits : Limits) (octets : List Nat) : Except ReadFault (Json RawText) :=
  let (encoding, octets) := Encoding.detect octets
  match encoding.decode? octets with
  | some text => read limits text
  | none => .error .malformed

end ContractLint
