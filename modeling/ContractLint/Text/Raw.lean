import ContractLint.Text.Quoted

/-!
# Raw texts

A raw text is a sequence of code points that may hold surrogates.  A surrogate is half of a
character: two of them can stand for one character in UTF-16, and one alone stands for none.  Raw
texts come from outside, out of escapes and ill-formed octets; they have an encoding in UTF-8 only
if no surrogate is in them.
-/

namespace ContractLint

/-- Half of a character. -/
structure Surrogate where
  /-- The code point. -/
  code : Nat
  /-- It is in the range of surrogates. -/
  isSurrogate : 0xD800 ≤ code ∧ code < 0xE000
  deriving DecidableEq

/-- The escape of a surrogate. -/
def Surrogate.escape (half : Surrogate) : Text :=
  '\\' :: 'u' :: Text.hexDigits 4 half.code

/-- A code point: a character or half of one. -/
inductive Glyph where
  /-- A character. -/
  | char (c : Char)
  /-- Half of a character. -/
  | surrogate (half : Surrogate)
  deriving DecidableEq

namespace Glyph

/-- Whether a code point is half of a character. -/
def isSurrogate : Glyph → Bool
  | .char _ => false
  | .surrogate _ => true

/-- The glyph with a code point. -/
def ofCode (code : Nat) : Glyph :=
  if h : 0xD800 ≤ code ∧ code < 0xE000 then .surrogate ⟨code, h⟩ else .char (.ofNat code)

/-- The character, or U+FFFD in place of half of one. -/
def face : Glyph → Char
  | .char c => c
  | .surrogate _ => '�'

end Glyph

/-- A sequence of code points. -/
abbrev RawText := List Glyph

namespace RawText

/-- A text is a raw text without surrogates. -/
def ofText (text : Text) : RawText :=
  text.map .char

/-- A string as a raw text. -/
def ofString (text : String) : RawText :=
  ofText text.toList

instance : Coe String RawText := ⟨ofString⟩

/-- The text, if no surrogate is in it. -/
def text? : RawText → Option Text
  | [] => some []
  | .char c :: rest => (text? rest).map (c :: ·)
  | .surrogate _ :: _ => none

/-- The string, if no surrogate is in it. -/
def string? (raw : RawText) : Option String :=
  raw.text?.map String.ofList

/-- The text with U+FFFD in place of every surrogate. -/
def face (raw : RawText) : Text :=
  raw.map Glyph.face

/-- The string with U+FFFD in place of every surrogate. -/
def faceString (raw : RawText) : String :=
  String.ofList raw.face

/-- One code point inside the given quotes. -/
def quotedGlyph (quote : Char) : Glyph → Text
  | .char c => Text.quotedChar quote c
  | .surrogate half => half.escape

/-- The quoted form of a raw text. -/
def quoted (raw : RawText) : Text :=
  let quote := Text.quoteFor raw.face
  quote :: raw.flatMap (quotedGlyph quote) ++ [quote]

/-- Where the first surrogates of a raw text are, as the text of the error that it has no
encoding. -/
def encodeFault (raw : RawText) : Text :=
  let rest := raw.dropWhile (!·.isSurrogate)
  let position := raw.length - rest.length
  let place :=
    match rest.takeWhile (·.isSurrogate) with
    | [half] => " '".toList ++ quotedGlyph '\'' half ++ "' in position ".toList
      ++ Nat.toDigits 10 position
    | halves => "s in position ".toList ++ Nat.toDigits 10 position
      ++ '-' :: Nat.toDigits 10 (position + halves.length - 1)
  "'utf-8' codec can't encode character".toList ++ place ++ ": surrogates not allowed".toList

/-- The string that can be encoded, or why there is none. -/
def encode (raw : RawText) : Except Text String :=
  match raw.string? with
  | some text => .ok text
  | none => .error raw.encodeFault

/-! ### Faces

What a text looks like where a surrogate cannot be told from U+FFFD, and how the surrogates are put
back. -/

/-- The code points that look like U+FFFD. -/
def masked (raw : RawText) : List Glyph :=
  raw.filter (·.face == '�')

/-- The text with one code point after the other put in the place of each U+FFFD. -/
def unmask : List Glyph → Text → RawText
  | _, [] => []
  | [], c :: rest => .char c :: unmask [] rest
  | glyph :: glyphs, c :: rest =>
    if c = '�' then glyph :: unmask glyphs rest else .char c :: unmask (glyph :: glyphs) rest

end RawText

/-- Types of strings. -/
class RawString (σ : Type) where
  /-- The code points of a string. -/
  toRaw : σ → RawText

instance : RawString String := ⟨RawText.ofString⟩

instance : RawString RawText := ⟨id⟩

end ContractLint
