import ContractLint.Text.Basic
import ContractLint.Text.WordRanges

/-!
# Words

A word character is a letter, a digit or another numeric character of any script, or the
underscore.  A word stands alone in a text where no word character touches it on either side;
`Text.beforeWord?` finds its first such occurrence.
-/

namespace ContractLint.Text

/-- The characters that make up words. -/
def isWord (c : Char) : Bool :=
  if c.toNat < 0x80 then c.isAlphanum || c == '_' else inRanges wordRanges c

/-- Whether the text begins with a word character. -/
def startsInWord : Text → Bool
  | [] => false
  | c :: _ => isWord c

/-- Whether `word` is the front of the text and no word character follows it there. -/
def endsWordAtFront (word text : Text) : Bool :=
  word.isPrefixOf text && !startsInWord (text.drop word.length)

/-- The text before the first place where `word` stands alone, if there is one.  The flag says
whether a word character comes right before the text. -/
def beforeWordFrom? (word : Text) : Bool → Text → Option Text
  | _, [] => none
  | touched, c :: rest =>
    if !touched && endsWordAtFront word (c :: rest) then some []
    else (beforeWordFrom? word (isWord c) rest).map (c :: ·)

/-- The text before the first place where `word` stands alone, if there is one. -/
def beforeWord? (word text : Text) : Option Text :=
  beforeWordFrom? word false text

/-- Whether `word` stands alone somewhere in the text. -/
def hasWord (word text : Text) : Bool :=
  (beforeWord? word text).isSome

/-- The text up to the first place where `word` stands alone, or all of it. -/
def upToWord (word text : Text) : Text :=
  (beforeWord? word text).getD text

end ContractLint.Text
