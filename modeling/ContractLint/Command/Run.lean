import ContractLint.Command.Basic
import ContractLint.History.Session
import ContractLint.Report.Listing
import ContractLint.Report.Screen
import ContractLint.Tree.Search

/-!
# Running commands

`Command.run` runs a command in a world of files, variables and a clock, and gives the world
afterwards together with what was printed and the exit code.  A run that only analyses does not
change the world; what `--save` does to the history never shows in what is printed.  A history that
refuses an analysis is passed over, but anything else that goes wrong there breaks the run off.
-/

namespace ContractLint

/-- What a command works on. -/
structure World where
  /-- The files. -/
  tree : FileTree
  /-- The current directory. -/
  current : Place
  /-- The variables. -/
  environment : Environment := {}
  /-- The clock. -/
  clock : Clock
  /-- The number of columns of the console. -/
  columns : Nat := 80
  /-- How many directories can be made for one database. -/
  directoryLimit : Nat

/-- Why a command breaks off. -/
inductive Breakdown where
  /-- A name holds markup that cannot be shown. -/
  | markup (error : Console.Markup.TagError)
  /-- The variable for the TCP port holds no number. -/
  | port (error : PortError)
  /-- The path of a database cannot be used. -/
  | opening (fault : OpenFault)
  /-- The history fails in a way that is not a refusal. -/
  | store (error : StoreError)

namespace Breakdown

/-- The text of a breakdown. -/
def message : Breakdown → RawText
  | .markup error => .ofString error.message
  | .port error => .ofString error.message
  | .opening fault => .ofString fault.message
  | .store error => error.message

/-- The breakdown that an error in a session causes, unless the database only refuses. -/
def ofError? : SessionError → Option Breakdown
  | .noStore | .cannotOpen _ .refused => none
  | .cannotOpen _ fault => some (.opening fault)
  | .store error => if error.isRefusal then none else some (.store error)

end Breakdown

/-- How a command ends. -/
structure Outcome where
  /-- The exit code. -/
  exitCode : Nat := 0
  /-- What was printed. -/
  output : Text := []
  /-- What was reported as an error. -/
  complaint : Option RawText := none
  /-- Why the command broke off, if it did. -/
  breakdown : Option Breakdown := none
  /-- The host and the TCP port at which the service starts, if it does. -/
  service : Option (String × Int) := none

namespace Outcome

/-- The outcome of arguments that cannot be used. -/
def usage (error : UsageError) : Outcome where
  exitCode := 2
  complaint := some (.ofString error.message)

/-- The outcome of a screen, with an exit code for the case that it could be printed. -/
def ofScreen (exitCode : Nat) (screen : Console.Screen) : Outcome :=
  match screen.error with
  | none => { exitCode, output := screen.text }
  | some error => { exitCode := 1, output := screen.text, breakdown := some (.markup error) }

/-- The outcome after a breakdown, if there was one. -/
def afterBreakdown (outcome : Outcome) : Option Breakdown → Outcome
  | none => outcome
  | some breakdown => { outcome with exitCode := 1, breakdown := some breakdown }

/-- The outcome of a command that needs the history and gets an error from it. -/
def noHistory (error : SessionError) : Outcome :=
  match Breakdown.ofError? error with
  | some breakdown => { exitCode := 1, breakdown := some breakdown }
  | none => { exitCode := 2, complaint := some error.message }

end Outcome

namespace World

/-- The text of the path of the history database. -/
def databaseText (world : World) (database : Option Path) : String :=
  toString (database.getD world.environment.databasePath)

/-- The session of a world. -/
def session (world : World) : Session where
  tree := world.tree
  current := world.current
  clock := world.clock
  directoryLimit := world.directoryLimit

/-- The world after a session. -/
def after (world : World) (session : Session) : World :=
  { world with tree := session.tree, clock := session.clock }

/-- The steps that open a history database and make its table. -/
def openingSteps (world : World) (database : Option Path) : List SessionStep :=
  [.openStore (world.databaseText database), .use 0 .initialise]

end World

/-- The session after the first steps that do not fail, and the error of the one that does. -/
def Session.attempt : List SessionStep → Session → Session × Option SessionError
  | [], session => (session, none)
  | step :: rest, session =>
    match session.step step with
    | (session, .failed error) => (session, some error)
    | (session, _) => attempt rest session

/-! ### Analysis -/

/-- A contract file, its text and its findings. -/
structure FileAnalysis where
  /-- The path of the file. -/
  path : Path
  /-- Its text. -/
  source : Text
  /-- Its findings. -/
  findings : List Finding

namespace AnalyzeOptions

/-- The settings of an analysis. -/
def settings (options : AnalyzeOptions) : Settings :=
  Settings.withChoices options.disabled options.ownerGuards

/-- The contract files that the target stands for. -/
def files (options : AnalyzeOptions) (world : World) : Except UsageError (List Path) :=
  let canonical := world.tree.canonical world.current options.target
  let path := Tree.pathOf canonical.place
  if !canonical.isResolved then .error (.missingTarget (toString path))
  else
    match world.tree.get? canonical.place with
    | some (.file _) =>
      if path.isSolidity then .ok [path] else .error (.notContract (toString path))
    | some (.directory entries) =>
      .ok ((world.tree.findBelow defaultIgnored false canonical.place (.directory entries)).map
        Tree.pathOf)
    | some (.link _) | none => .error (.missingTarget (toString path))

/-- The analyses of those files that can be read. -/
def analyses (options : AnalyzeOptions) (world : World) (files : List Path) :
    List FileAnalysis :=
  files.filterMap fun path =>
    match world.tree.readSource world.current path with
    | .error _ => none
    | .ok source => some ⟨path, source, ContractLint.analyze options.settings (some path) source⟩

/-- What is printed about analyses of some files. -/
def report (options : AnalyzeOptions) (columns : Nat) (files : List Path)
    (analyses : List FileAnalysis) : Outcome :=
  let findings := analyses.flatMap (·.findings)
  let exitCode := if Finding.anyFails findings then 1 else 0
  match options.format with
  | .json =>
    { exitCode, output := (findingsToJson (.indented 2) findings).toList ++ ['\n'] }
  | .table =>
    let listed := if 1 < files.length then analyses.map (·.path) else []
    .ofScreen exitCode (Report.screen columns options.verbose ⟨findings, listed⟩)

end AnalyzeOptions

/-- The steps that store analyses one after the other.  The findings of each are taken out of the
findings of all. -/
def savingSteps (user : RawText) (analyses : List FileAnalysis) : List SessionStep :=
  let all := analyses.flatMap (·.findings)
  analyses.map fun analysis =>
    .use 0 (.save (.string (.ofText analysis.source))
      (all.filter (·.location.path == some analysis.path)) (.string user))

/-- The world after analyses were stored for a user, as far as the history does not refuse, and what
else went wrong. -/
def World.saveAll (world : World) (database : Option Path) (user : RawText)
    (analyses : List FileAnalysis) : World × Option Breakdown :=
  let (session, error?) :=
    world.session.attempt (world.openingSteps database ++ savingSteps user analyses)
  (world.after session, error?.bind Breakdown.ofError?)

/-! ### Commands -/

namespace Command

/-- Analyse a file or a directory. -/
def runAnalyze (options : AnalyzeOptions) (world : World) : World × Outcome :=
  match options.files world with
  | .error error => (world, .usage error)
  | .ok files =>
    let analyses := options.analyses world files
    let outcome := options.report world.columns files analyses
    match outcome.breakdown, options.saveFor with
    | none, some user =>
      let (world, breakdown) := world.saveAll options.database user analyses
      (world, outcome.afterBreakdown breakdown)
    | _, _ => (world, outcome)

/-- List the history of a user. -/
def runHistory (user : RawText) (database : Option Path) (world : World) : World × Outcome :=
  match world.session.attempt (world.openingSteps database) with
  | (session, some error) => (world.after session, .noHistory error)
  | (session, none) =>
    match session.step (.use 0 (.list (.string user))) with
    | (session, .listed records) =>
      (world.after session, .ofScreen 0 (Record.screen world.columns user.faceString records))
    | (session, .failed error) => (world.after session, .noHistory error)
    | (session, _) => (world.after session, {})

/-- The TCP port at which the service starts: the one asked for, unless it is zero. -/
def servicePort (world : World) : Option Int → Except PortError Int
  | some 0 | none => world.environment.portNumber
  | some port => .ok port

/-- Start the service. -/
def runServe (host : String) (port : Option Int) (database : Option Path) (world : World) :
    World × Outcome :=
  match world.session.attempt (world.openingSteps database) with
  | (session, some error) => (world.after session, .noHistory error)
  | (session, none) =>
    match servicePort world port with
    | .ok port => (world.after session, { service := some (host, port) })
    | .error error => (world.after session, { exitCode := 1, breakdown := some (.port error) })

/-- Run a command. -/
def run (world : World) : Command → World × Outcome
  | .analyze options => runAnalyze options world
  | .rules => (world, .ofScreen 0 (Rule.screen world.columns ({} : Settings).enabledRules))
  | .history user database => runHistory user database world
  | .serve host port database => runServe host port database world

/-- Run a command line. -/
def runLine (world : World) (arguments : List RawText) : World × Outcome :=
  match read arguments with
  | .ok command => command.run world
  | .error error => (world, .usage error)

end Command

end ContractLint
