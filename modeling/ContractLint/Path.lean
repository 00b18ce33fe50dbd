import ContractLint.Text.Basic

/-!
# Paths

A path is an anchor and a list of parts.  A part is not empty, is not the single dot and holds no
slash, and this is kept in the type: reading a text drops the empty parts and the single dots, and
writing gives one text for every path.
-/

namespace ContractLint

/-- Where a path starts. -/
inductive Anchor where
  /-- At the current directory. -/
  | current
  /-- At the root, one slash or more than two. -/
  | root
  /-- At the root, written with exactly two slashes. -/
  | doubleRoot
  deriving DecidableEq, Repr

/-- Whether a name can be a part of a path. -/
def isPathPart (name : String) : Bool :=
  name != "" && name != "." && !name.toList.contains '/'

/-- A path in normal form. -/
structure Path where
  /-- Where the path starts. -/
  anchor : Anchor
  /-- The names along the path, from the outside in. -/
  parts : List String
  /-- Every name is a part. -/
  clean : parts.all isPathPart = true
  deriving DecidableEq

namespace Path

/-- The path with an anchor and the given names, without those that are no parts. -/
def ofNames (anchor : Anchor) (names : List String) : Path :=
  ⟨anchor, names.filter isPathPart, by simp [List.all_filter]⟩

/-- The anchor of the path that a text writes. -/
def anchorOf : Text → Anchor
  | '/' :: '/' :: '/' :: _ => .root
  | '/' :: '/' :: _ => .doubleRoot
  | '/' :: _ => .root
  | _ => .current

/-- The path that a text writes. -/
def ofText (text : Text) : Path :=
  ofNames (anchorOf text) ((text.splitOn '/').map String.ofList)

/-- The path that a string writes. -/
def ofString (text : String) : Path :=
  ofText text.toList

/-- The text of an anchor in front of the parts. -/
def anchorText : Anchor → Text
  | .current => []
  | .root => ['/']
  | .doubleRoot => ['/', '/']

/-- The text of a path: its parts between slashes, and a dot for the current directory. -/
def toText (path : Path) : Text :=
  if path.anchor = .current && path.parts.isEmpty then ['.']
  else anchorText path.anchor ++ List.intercalate ['/'] (path.parts.map String.toList)

instance : ToString Path := ⟨fun path => String.ofList path.toText⟩

/-- The last name of a path, empty if it has none. -/
def name (path : Path) : String :=
  path.parts.getLastD ""

/-- The path without its last name; a path without names is its own parent. -/
def parent (path : Path) : Path :=
  ofNames path.anchor path.parts.dropLast

/-- The end of a name from its last dot, empty if that dot is the first or the last character. -/
def suffixOf (name : Text) : Text :=
  let ending := (name.reverse.takeWhile (· != '.')).reverse
  let stem := (name.reverse.dropWhile (· != '.')).drop 1
  if ending.isEmpty || stem.isEmpty then [] else '.' :: ending

/-- The suffix of the last name of a path. -/
def suffix (path : Path) : Text :=
  suffixOf path.name.toList

/-- Whether a name ends as Solidity files do, in letters of either case. -/
def isSolidityName (name : String) : Bool :=
  (suffixOf name.toList).map Char.toLower == ".sol".toList

/-- Whether a path names a Solidity file. -/
def isSolidity (path : Path) : Bool :=
  isSolidityName path.name

end Path

end ContractLint
