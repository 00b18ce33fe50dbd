import ContractLint.Text.Raw

/-!
# Arguments of a command

Arguments are raw texts, options and operands in any order.  A long option may carry its value after
an equals sign, short options may stand together behind one dash, and an option that takes a value
takes the next argument, whatever it is.  Everything after two dashes is an operand.
-/

namespace ContractLint

/-- An option of a command. -/
structure OptionForm where
  /-- The long name, with its dashes. -/
  long : String
  /-- The letter of the short name. -/
  short : Option Char := none
  /-- Whether the option takes a value. -/
  takesValue : Bool := true
  deriving DecidableEq, Repr

/-- Why arguments cannot be understood. -/
inductive UsageError where
  | missingCommand
  | unknownCommand (name : String)
  | unknownOption (name : String)
  | missingValue (option : String)
  | unexpectedValue (option : String)
  | missingOption (option : String)
  | missingOperand (operand : String)
  | extraOperand (operand : String)
  | badInteger (option value : String)
  | unknownFormat (format : String)
  | missingTarget (path : String)
  | notContract (path : String)
  deriving DecidableEq, Repr

/-- A text in quotes. -/
def UsageError.quote (text : String) : String :=
  String.ofList (Text.quoted text.toList)

/-- The text of an error. -/
def UsageError.message : UsageError → String
  | .missingCommand => "Missing command."
  | .unknownCommand name => "No such command " ++ quote name ++ "."
  | .unknownOption name => "No such option: " ++ name
  | .missingValue option => "Option " ++ quote option ++ " requires an argument."
  | .unexpectedValue option => "Option " ++ quote option ++ " does not take a value."
  | .missingOption option => "Missing option " ++ quote option ++ "."
  | .missingOperand operand => "Missing argument " ++ quote operand ++ "."
  | .extraOperand operand => "Got unexpected extra argument (" ++ operand ++ ")"
  | .badInteger option value =>
    "Invalid value for " ++ quote option ++ ": " ++ quote value ++ " is not a valid integer."
  | .unknownFormat format => "Unknown format: " ++ format
  | .missingTarget path => "Path " ++ quote path ++ " does not exist."
  | .notContract path => "Target file must have .sol extension, got: " ++ path

/-- Arguments taken apart. -/
structure Arguments where
  /-- The operands in order. -/
  operands : List RawText := []
  /-- The options in order, by long name, with the value of those that take one. -/
  options : List (String × RawText) := []
  deriving DecidableEq

namespace Arguments

/-- The arguments with an operand in front. -/
def addOperand (operand : RawText) (arguments : Arguments) : Arguments :=
  { arguments with operands := operand :: arguments.operands }

/-- The arguments with options in front. -/
def addOptions (options : List (String × RawText)) (arguments : Arguments) : Arguments :=
  { arguments with options := options ++ arguments.options }

/-- What the letters behind one dash say. -/
inductive Letters where
  /-- Only options that are complete. -/
  | complete (options : List (String × RawText))
  /-- The last letter is an option whose value is the next argument. -/
  | awaits (options : List (String × RawText)) (form : OptionForm)

/-- The letters with an option in front. -/
def Letters.add (option : String × RawText) : Letters → Letters
  | .complete options => .complete (option :: options)
  | .awaits options form => .awaits (option :: options) form

/-- What letters behind one dash say.  What follows the letter of an option that takes a value is
its value. -/
def readLetters (forms : List OptionForm) : RawText → Except UsageError Letters
  | [] => .ok (.complete [])
  | letter :: rest =>
    match forms.find? fun form => form.short.map Glyph.char == some letter with
    | none => .error (.unknownOption (RawText.faceString [.char '-', letter]))
    | some form =>
      if form.takesValue then
        match rest with
        | [] => .ok (.awaits [] form)
        | _ => .ok (.complete [(form.long, rest)])
      else (readLetters forms rest).map (.add (form.long, []))

/-- The part of an argument before its first equals sign, and the part after it. -/
def splitValue (text : RawText) : RawText × Option RawText :=
  match text.dropWhile (· != .char '=') with
  | [] => (text, none)
  | _ :: value => (text.takeWhile (· != .char '='), some value)

/-- What a single argument is. -/
inductive Item where
  /-- Two dashes. -/
  | divider
  /-- An operand. -/
  | operand
  /-- Options. -/
  | options (letters : Letters)

/-- Read a single argument. -/
def readItem (forms : List OptionForm) (argument : RawText) : Except UsageError Item :=
  match argument with
  | [.char '-', .char '-'] => .ok .divider
  | .char '-' :: next :: rest =>
    let (name, value) := splitValue (.char '-' :: next :: rest)
    match forms.find? fun form => RawText.ofString form.long == name with
    | some form =>
      match form.takesValue, value with
      | true, some value => .ok (.options (.complete [(form.long, value)]))
      | true, none => .ok (.options (.awaits [] form))
      | false, some _ => .error (.unexpectedValue form.long)
      | false, none => .ok (.options (.complete [(form.long, [])]))
    | none =>
      if next = .char '-' then .error (.unknownOption (RawText.faceString name))
      else (readLetters forms (next :: rest)).map .options
  | _ => .ok .operand

/-- Take arguments apart. -/
def read (forms : List OptionForm) : List RawText → Except UsageError Arguments
  | [] => .ok {}
  | argument :: rest =>
    match readItem forms argument with
    | .error error => .error error
    | .ok .divider => .ok { operands := rest }
    | .ok .operand => (read forms rest).map (addOperand argument)
    | .ok (.options (.complete options)) => (read forms rest).map (addOptions options)
    | .ok (.options (.awaits options form)) =>
      match rest with
      | [] => .error (.missingValue form.long)
      | value :: rest => (read forms rest).map (addOptions (options ++ [(form.long, value)]))

/-- All values of an option. -/
def rawValues (arguments : Arguments) (long : String) : List RawText :=
  (arguments.options.filter (·.1 == long)).map (·.2)

/-- The last value of an option. -/
def rawValue? (arguments : Arguments) (long : String) : Option RawText :=
  (arguments.rawValues long).getLast?

/-- All values of an option, where surrogates make no difference. -/
def values (arguments : Arguments) (long : String) : List String :=
  (arguments.rawValues long).map RawText.faceString

/-- The last value of an option, where surrogates make no difference. -/
def value? (arguments : Arguments) (long : String) : Option String :=
  (arguments.rawValue? long).map RawText.faceString

/-- Whether an option is given. -/
def has (arguments : Arguments) (long : String) : Bool :=
  (arguments.rawValue? long).isSome

/-- The only operand. -/
def operand (arguments : Arguments) (name : String) : Except UsageError String :=
  match arguments.operands with
  | [] => .error (.missingOperand name)
  | [operand] => .ok operand.faceString
  | _ :: extra :: _ => .error (.extraOperand extra.faceString)

/-- Complain about any operand. -/
def noOperand (arguments : Arguments) : Except UsageError Unit :=
  match arguments.operands with
  | [] => .ok ()
  | extra :: _ => .error (.extraOperand extra.faceString)

end Arguments

end ContractLint
