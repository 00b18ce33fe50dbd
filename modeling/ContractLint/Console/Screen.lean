import ContractLint.Console.Markup

/-!
# Screens

What is printed comes in blocks of lines.  A block whose markup is faulty is not printed, and
nothing after it is; what came before stays on the screen.
-/

namespace ContractLint.Console

/-- A block of lines, or the tag that makes it impossible to print. -/
abbrev Block := Except Markup.TagError (List Text)

/-- What was printed, and the tag that ended the printing early. -/
structure Screen where
  /-- The printed lines. -/
  lines : List Text
  /-- The faulty tag. -/
  error : Option Markup.TagError := none

namespace Screen

/-- The screen after some blocks. -/
def ofBlocks : List Block → Screen
  | [] => ⟨[], none⟩
  | .ok lines :: rest => { ofBlocks rest with lines := lines ++ (ofBlocks rest).lines }
  | .error error :: _ => ⟨[], some error⟩

/-- The text on a screen, with a line feed after every line. -/
def text (screen : Screen) : Text :=
  screen.lines.flatMap (· ++ ['\n'])

end Screen

/-- An empty line. -/
def emptyLine : Block :=
  .ok [[]]

end ContractLint.Console
