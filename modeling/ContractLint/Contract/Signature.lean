import ContractLint.Source
import ContractLint.Text.Names
import ContractLint.Text.Word

/-!
# Signature lines

What a single line declares: a contract, or a function with its name, its visibility and the
modifiers attached to it.  Modifiers are read from the text between the parameter list and the
body, where `Signature.attachments` takes every name together with the arguments after it.
-/

namespace ContractLint

/-- Who may call a function. -/
inductive Visibility where
  | publicAccess
  | privateAccess
  | internalAccess
  | externalAccess
  /-- The signature does not say. -/
  | unspecified
  deriving DecidableEq, Repr

namespace Visibility

/-- The visibilities that a signature can state, in the order in which they are looked for. -/
def stated : List Visibility :=
  [.publicAccess, .privateAccess, .internalAccess, .externalAccess]

/-- The word for a visibility. -/
def keyword : Visibility → String
  | .publicAccess => "public"
  | .privateAccess => "private"
  | .internalAccess => "internal"
  | .externalAccess => "external"
  | .unspecified => "unspecified"

/-- The visibility that a word states. -/
def ofKeyword? (word : String) : Option Visibility :=
  stated.find? (·.keyword == word)

end Visibility

namespace Signature

/-! ### Declarations -/

/-- The text after a word that must be its front. -/
def afterFront? (front text : Text) : Option Text :=
  if front.isPrefixOf text then some (text.drop front.length) else none

/-- The text after at least one blank, and after all the blanks there. -/
def afterBlanks? : Text → Option Text
  | [] => none
  | c :: rest => if Text.isBlank c then some (Text.trimStart rest) else none

/-- Whether a line declares a contract: it starts with the word `contract`, perhaps after the word
`abstract`. -/
def isContractDeclaration (line : Line) : Bool :=
  let declared := ((afterFront? "abstract".toList line).bind afterBlanks?).getD line
  Text.endsWordAtFront "contract".toList declared

/-- Whether a line opens a function. -/
def opensFunction (line : Line) : Bool :=
  "function".toList.isPrefixOf line

/-- Whether a line looks like a state variable that everyone may read and the contract may
change. -/
def exposesState (line : Line) : Bool :=
  Text.occursIn "public".toList line && !Text.occursIn "constant".toList line
    && !Text.occursIn "immutable".toList line

/-! ### Names -/

/-- The characters that a name may start with. -/
def isNameStart (c : Char) : Bool :=
  c.isAlpha || c == '_' || c == '$'

/-- The characters that may go on a name. -/
def isNamePart (c : Char) : Bool :=
  Text.isWord c || c == '$'

/-- The name at the front of a text, empty if there is none. -/
def nameAtFront : Text → Text
  | [] => []
  | c :: rest => if isNameStart c then c :: rest.takeWhile isNamePart else []

/-- The name of the function that a line opens, empty if it has none. -/
def functionName (line : Line) : String :=
  match (afterFront? "function".toList line).bind afterBlanks? with
  | some rest => String.ofList (nameAtFront rest)
  | none => ""

/-- The first visibility that stands alone in a line. -/
def visibility (line : Line) : Visibility :=
  (Visibility.stated.find? fun v => Text.hasWord v.keyword.toList line).getD .unspecified

/-! ### Attachments -/

/-- The text after the parenthesis that closes the one before the text and `depth` more. -/
def afterClose? : Nat → Text → Option Text
  | _, [] => none
  | depth, c :: rest =>
    if c = '(' then afterClose? (depth + 1) rest
    else if c = ')' then
      match depth with
      | 0 => some rest
      | depth + 1 => afterClose? depth rest
    else afterClose? depth rest

/-- The text after the first parenthesis and the one that closes it. -/
def afterParameters? : Text → Option Text
  | [] => none
  | c :: rest => if c = '(' then afterClose? 0 rest else afterParameters? rest

/-- The text between the parameter list of a signature and its body or its `returns`, empty if the
parameter list is missing or open. -/
def attachmentText (line : Line) : Text :=
  match afterParameters? line with
  | some rest => Text.upToWord "returns".toList (Text.before ';' (Text.before '\x7b' rest))
  | none => []

/-- The text after an argument list without inner parentheses, if it starts with one. -/
def dropArguments (text : Text) : Text :=
  match text with
  | '(' :: rest =>
    match rest.dropWhile fun c => c != '(' && c != ')' with
    | ')' :: after => after
    | _ => text
  | _ => text

theorem length_dropArguments_le (text : Text) :
  (dropArguments text).length ≤ text.length
  := by
  unfold dropArguments
  split
  · next rest =>
    split
    · next after h =>
      have := (List.dropWhile_suffix (l := rest) fun c => c != '(' && c != ')').length_le
      rw [h] at this
      simp only [List.length_cons] at this ⊢
      omega
    · exact Nat.le_refl _
  · exact Nat.le_refl _

/-- The names in a text, each taken together with the argument list after it. -/
def attachments : Text → List Text
  | [] => []
  | c :: rest =>
    if isNameStart c then
      (c :: rest.takeWhile isNamePart)
        :: attachments (dropArguments (Text.trimStart (rest.dropWhile isNamePart)))
    else attachments rest
termination_by text => text.length
decreasing_by
  · have h₁ := length_dropArguments_le (Text.trimStart (rest.dropWhile isNamePart))
    have h₂ := (List.dropWhile_suffix (l := rest.dropWhile isNamePart) Text.isBlank).length_le
    have h₃ := (List.dropWhile_suffix (l := rest) isNamePart).length_le
    simp only [Text.trimStart, List.length_cons] at *
    omega
  · simp

/-- The words after a parameter list that are no modifiers. -/
def keywords : List String :=
  ["public", "private", "internal", "external", "payable", "nonpayable", "view", "pure",
    "constant", "virtual", "override", "returns"]

/-- The modifiers attached to the function that a line opens, in increasing order. -/
def modifiers (line : Line) : List String :=
  sortedNames (((attachments (attachmentText line)).map String.ofList).filter
    fun name => !keywords.contains name)

end Signature

end ContractLint
