import DeclLinker.Command.Completion
import DeclLinker.Console.Summary
import DeclLinker.Log.Session
import DeclLinker.Pass
import DeclLinker.Settings.Load
import DeclLinker.Text.Control

/-!
# Running the command

The command loads the settings of a project, runs a pass over its generated files, and prints the
report.  It ends with a status: zero, one after a failure, two after a wrong use, and three when a
strict run leaves references unresolved.  What it prints and writes is kept in a session.
-/

namespace DeclLinker.Command

/-- The surroundings of a run.  The width of help pages may be left to the environment. -/
structure Surroundings where
  here : Location
  home : Path
  users : Dict Text Text
  environment : List (Text × Text)
  faults : Faults
  terminal : Bool
  width? : Option Nat
  runId : Text

/-- The width of help pages. -/
def Surroundings.width (around : Surroundings) : Nat :=
  around.width?.getD (HelpPage.widthFor (around.environment.lookup "COLUMNS".toList))

/-- What a shell asks for; it is answered before anything else. -/
def Surroundings.wanted? (around : Surroundings) : Option Text :=
  (around.environment.lookup "_TYPELINK_COMPLETE".toList).filter fun wanted => !wanted.isEmpty

/-- What ends a run without a status of its own. -/
inductive Crash where
  | settings (fault : LoadFault)
  | markup (fault : Console.MarkupFault)
  | logFile (fault : LogFault)
  | directory (path : Path) (fault : PathFault)
  | completion (fault : CompletionFault)

namespace Crash

/-- The message for a crash. -/
def message : Crash → Text
  | .settings fault => fault.message
  | .markup fault => fault.message
  | .logFile fault => fault.fault.message fault.path
  | .directory path fault => fault.message path
  | .completion fault => fault.message

end Crash

/-- How a run ends. -/
inductive Ending where
  | status (code : Nat)
  | crash (cause : Crash)

/-- A step of a run: it changes the session, and goes on or ends the run. -/
abbrev Step (α : Type) := ExceptT Ending (StateM Session) α

namespace Step

/-- The run ends with a status. -/
def exit {α : Type} (code : Nat) : Step α :=
  throw (.status code)

/-- A text goes to standard error. -/
def print (text : Text) : Step Unit :=
  modify (Session.print text)

/-- The run ends with a message on standard error, which only a terminal gets with its control
sequences. -/
def fail {α : Type} (terminal : Bool) (code : Nat) (message : Text) : Step α := do
  print (if terminal then message else message.withoutControls)
  exit code

/-- The run ends because the program or its command was used wrongly. -/
def failUsage {α : Type} (terminal : Bool) (page : Page) (fault : UsageFault) : Step α :=
  fail terminal 2 (page.complaint fault)

/-- The run ends because of a failure. -/
def failWith {α : Type} (terminal : Bool) (failure : Failure) : Step α :=
  fail terminal 1 ("Error: ".toList ++ failure.message ++ ['\n'])

/-- The session changes, or the run crashes. -/
def change {ε : Type} (crash : ε → Crash) (next : Session → Except ε Session) : Step Unit := do
  match next (← get) with
  | .ok session => set session
  | .error fault => throw (.crash (crash fault))

/-- The log goes elsewhere from here on. -/
def configureLog (settings : LogSettings) : Step Unit :=
  change .logFile (Session.configure settings)

/-- A status is printed and told to the log. -/
def showStatus (status : Console.Status) : Step Unit :=
  change .markup (Session.status status)

/-- Statuses are shown one after the other. -/
def showAll (statuses : List Console.Status) : Step Unit :=
  statuses.forM showStatus

/-- A step that takes longer. -/
def activity {α : Type} (terminal : Bool) (message : Text) (step : Step α) : Step α := do
  change .markup (Session.beginActivity terminal 0 message)
  let result ← step
  modify Session.endActivity
  pure result

end Step

/-- What the command is to do. -/
structure ResolveRequest where
  root : Path
  directory? : Option Path
  dryRun : Bool
  strict : Bool
  deriving DecidableEq

/-- Why arguments make no request: the command was used wrongly, or a directory is named by a text
with a NUL character, about which no tree can even be asked. -/
inductive RequestFault where
  | usage (fault : UsageFault)
  | nulCharacter (path : Path)
  deriving DecidableEq

namespace ResolveRequest

/-- What the text of an operand leads to; an empty text leads nowhere, and a text that ends in a
slash only to a directory. -/
def entryAt? (tree : FileTree) (here : Location) (text : Text) : Option FileEntry :=
  if text.isEmpty then
    none
  else
    match tree.find here (Path.ofText text) with
    | .ok (_, .directory) => some .directory
    | .ok (_, .file bytes) =>
        if text.contains '/' && !Path.isPart (text.lastSegment '/') then none
        else some (.file bytes)
    | .error _ => none

/-- A directory that need not be there. -/
def checkDirectory (tree : FileTree) (here : Location) (name text : Text) :
    Except RequestFault Path :=
  if text.contains (Char.ofNat 0) then
    .error (.nulCharacter (Path.ofText text))
  else
    match entryAt? tree here text with
    | some (.file _) =>
        .error (.usage
          (.badValue name ("Directory ".toList ++ text.quoted ++ " is a file.".toList)))
    | _ => .ok (Path.ofText text)

/-- A directory that has to be there. -/
def checkExisting (tree : FileTree) (here : Location) (name text : Text) :
    Except RequestFault Path := do
  let path ← checkDirectory tree here name text
  if (entryAt? tree here text).isSome then
    pure path
  else
    .error (.usage
      (.badValue name ("Directory ".toList ++ text.quoted ++ " does not exist.".toList)))

/-- A path from the top, without double dots. -/
def absolute (here : Location) (path : Path) : Path :=
  ⟨.slash, path.locate here⟩

/-- The request that arguments make, none when they ask for help. -/
def ofArguments (tree : FileTree) (here : Location) (arguments : List Text) :
    Except RequestFault (Option ResolveRequest) := do
  let read ← (Arguments.read Page.resolve.options true arguments).mapError .usage
  if read.has "--help".toList then
    return none
  let name := "--generated-dir".toList
  let directory? ← (read.value? name).mapM (checkDirectory tree here name)
  let root? ← read.operands.head?.mapM (checkExisting tree here "[ROOT]".toList)
  let extra := read.operands.drop 1
  if extra.isEmpty then
    return some
      { root := absolute here (root?.getD ⟨.relative, []⟩)
        directory? := directory?.map (absolute here)
        dryRun := read.has "--dry-run".toList
        strict := read.has "--strict".toList }
  else
    .error (.usage (.extraOperands extra))

/-- The settings that the request itself makes. -/
def overrides (request : ResolveRequest) : Fields :=
  match request.directory? with
  | none => []
  | some path =>
      [(.str "corpus".toList,
        .dict [(.str "generated_dir".toList, .str path.toText)])]

end ResolveRequest

/-- Where the settings of a run are looked for. -/
def Surroundings.source (around : Surroundings) (tree : FileTree) : SettingsSource :=
  ⟨tree, around.here, around.home, around.users, around.environment⟩

/-- The settings for a request; a failure ends the run. -/
def loadSettings (around : Surroundings) (request : ResolveRequest) : Step Settings := do
  match Settings.load (around.source (← get).tree) request.root request.overrides with
  | .ok settings => pure settings
  | .error (.failure cause) => Step.failWith around.terminal cause
  | .error fault => throw (.crash (.settings fault))

/-- The directory of generated files of a request. -/
def findDirectory (around : Surroundings) (request : ResolveRequest) (settings : Settings) :
    Step Path := do
  match settings.directory? (around.source (← get).tree).homes request.root with
  | some directory => pure directory
  | none => throw (.crash (.settings .homeless))

/-- The pass of a request; a failure ends the run. -/
def runPass (around : Surroundings) (request : ResolveRequest) (settings : Settings) :
    Step PassReport := do
  let directory ← findDirectory around request settings
  modify (Session.startRun around.runId)
  let session ← get
  let disk : Disk :=
    { tree := session.tree
      here := around.here
      faults := around.faults
      log := session.logFiles }
  if let some path := disk.unaskable? settings.corpus directory then
    throw (.crash (.directory path .nameTooLong))
  let outcome := Pass.run disk settings directory around.runId request.dryRun
  set { session.tellAll outcome.events with tree := outcome.disk.tree }
  match outcome.result with
  | .ok report => pure report
  | .error failure => Step.failWith around.terminal failure

/-- The command: settings, pass, report. -/
def resolve (around : Surroundings) (verbose : Bool) (request : ResolveRequest) : Step Unit := do
  let settings ← loadSettings around request
  if !verbose then
    Step.configureLog settings.logging
  Step.showStatus (.bare "Resolving cross-package type references...".toList)
  if request.dryRun then
    Step.showStatus ⟨"(DRY RUN - no files will be modified)".toList, .warning, 0⟩
  Step.showStatus (.bare [])
  let report ← Step.activity around.terminal "Analyzing generated files".toList
    (runPass around request settings)
  Step.showAll (Console.reportStatuses settings.resolve.limit report)
  if request.strict && !report.unresolved.isEmpty then
    Step.exit 3

/-- The answer to a shell, with which the run ends. -/
def complete (around : Surroundings) (wanted : Text) : Step Unit := do
  match Completion.answer? around.environment wanted with
  | .error fault => throw (.crash (.completion fault))
  | .ok none => Step.exit 1
  | .ok (some text) =>
      modify (Session.printOut text)
      Step.exit 0

/-- The program on its arguments. -/
def program (around : Surroundings) (arguments : List Text) : Step Unit := do
  if let some wanted := around.wanted? then
    complete around wanted
  if arguments.isEmpty then
    Step.fail around.terminal 2 (Page.program.help around.width)
  match Request.ofArguments arguments with
  | .error fault => Step.failUsage around.terminal .program fault
  | .ok .showVersion => modify (Session.printOut versionLine)
  | .ok .showHelp => modify (Session.printOut (Page.program.help around.width))
  | .ok (.resolve verbose rest) =>
      Step.configureLog (.simple (if verbose then .debug else .warning) .console)
      match ResolveRequest.ofArguments (← get).tree around.here rest with
      | .error (.usage fault) => Step.failUsage around.terminal .resolve fault
      | .error (.nulCharacter path) => throw (.crash (.directory path .nulCharacter))
      | .ok none => modify (Session.printOut (Page.resolve.help around.width))
      | .ok (some request) => resolve around verbose request

/-- How the program ends, and the session then. -/
def run (around : Surroundings) (tree : FileTree) (time : Text) (arguments : List Text) :
    Ending × Session :=
  match (program around arguments).run (Session.start tree time) with
  | (.ok (), session) => (.status 0, session)
  | (.error ending, session) => (ending, session)

end DeclLinker.Command
