import ContractLint.Text.Integer

/-!
# Markup

Text for the console may hold tags in square brackets, which style the text between them.  On a
console without colour they vanish.  A tag starts with a small letter or one of `#`, `/` and `@`;
other brackets are text.  A backslash before a tag makes it text, and two backslashes are one.  A
closing tag must close an open one.
-/

namespace ContractLint.Console.Markup

/-- A closing tag that closes nothing: its text, its place and whether it names a tag. -/
structure TagError where
  /-- The tag. -/
  tag : Text
  /-- The number of characters before the tag. -/
  offset : Nat
  /-- Whether the tag says which tag it closes. -/
  isNamed : Bool
  deriving DecidableEq

/-- The text of an error. -/
def TagError.message (error : TagError) : String :=
  String.ofList ("closing tag '".toList ++ error.tag ++ "' at position ".toList
    ++ Text.ofInt error.offset
    ++ (if error.isNamed then " doesn't match any open tag" else " has nothing to close").toList)

/-- Whether a character can start a tag. -/
def startsTag (c : Char) : Bool :=
  c.isLower || c == '#' || c == '/' || c == '@'

/-- The inside of the tag after an opening bracket, if there is one. -/
def tagInside? (text : Text) : Option Text :=
  match text with
  | [] => none
  | c :: rest =>
    if startsTag c then
      let inside := rest.takeWhile fun c => c != '[' && c != ']'
      match rest.dropWhile fun c => c != '[' && c != ']' with
      | ']' :: _ => some (c :: inside)
      | _ => none
    else none

/-- A piece of marked up text. -/
inductive Piece where
  /-- Plain text. -/
  | plain (text : Text)
  /-- A tag and the number of characters before it. -/
  | tag (inside : Text) (offset : Nat)
  deriving DecidableEq

/-- A number of backslashes in front of a tag: the plain text they stand for, and whether they make
the tag plain. -/
def escapes (count : Nat) : Text × Bool :=
  (List.replicate (count / 2) '\\', count % 2 == 1)

/-- The pieces of a text.  `plain` is the plain text read since the last tag, backwards; `skip` is
the number of characters of a tag that are still to be passed over. -/
def piecesFrom : Text → Nat → Nat → Text → List Piece
  | plain, _, _, [] => [.plain plain.reverse]
  | plain, offset, skip + 1, _ :: rest => piecesFrom plain (offset + 1) skip rest
  | plain, offset, 0, c :: rest =>
    if c = '[' then
      match tagInside? rest with
      | none => piecesFrom (c :: plain) (offset + 1) 0 rest
      | some inside =>
        let count := (plain.takeWhile (· == '\\')).length
        let (slashes, isEscaped) := escapes count
        let before := Piece.plain (plain.drop count).reverse
        let piece :=
          if isEscaped then Piece.plain ('[' :: inside ++ [']'])
          else Piece.tag inside offset
        before :: .plain slashes :: piece :: piecesFrom [] (offset + 1) (inside.length + 1) rest
    else piecesFrom (c :: plain) (offset + 1) 0 rest

/-- The pieces of a text. -/
def pieces (text : Text) : List Piece :=
  piecesFrom [] 0 0 text

/-- Plain text without the backslashes in front of brackets. -/
def unescape : Text → Text
  | '\\' :: '[' :: rest => '[' :: unescape rest
  | c :: rest => c :: unescape rest
  | [] => []

/-- The name of a tag: what comes before an equals sign, in lower case and trimmed. -/
def tagName (inside : Text) : Text :=
  (Text.trim (Text.before '=' inside)).map Char.toLower

/-- The stack of open tags without the last one of a name, if there is one. -/
def closeTag? (name : Text) : List Text → Option (List Text)
  | [] => none
  | tag :: rest => if tag = name then some rest else (closeTag? name rest).map (tag :: ·)

/-- The plain text of pieces, where `opened` are the names of the open tags, the last one first. -/
def renderPieces : List Text → List Piece → Except TagError Text
  | _, [] => .ok []
  | opened, .plain text :: rest => do
    let later ← renderPieces opened rest
    return unescape text ++ later
  | opened, .tag inside offset :: rest =>
    match inside with
    | '/' :: closed =>
      let name := tagName closed
      if name.isEmpty then
        match opened with
        | [] => .error ⟨['[', '/', ']'], offset, false⟩
        | _ :: opened => renderPieces opened rest
      else
        match closeTag? name opened with
        | none => .error ⟨'[' :: inside ++ [']'], offset, true⟩
        | some opened => renderPieces opened rest
    | _ => renderPieces (tagName inside :: opened) rest

/-- The plain text of marked up text. -/
def render (text : Text) : Except TagError Text :=
  renderPieces [] (pieces text)

end ContractLint.Console.Markup
