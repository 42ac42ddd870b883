import DeclLinker.Console.Status
import DeclLinker.FileTree
import DeclLinker.Log.Record
import DeclLinker.Settings.Basic

/-!
# Sessions

A session is what a running command has written so far: to its two streams and to the files of a
tree.  The log of a session goes to the outputs of its settings; a record reaches an output when its
level passes both the threshold of the log and that of the output.
-/

namespace DeclLinker

/-- What a command has written, and where its log goes. -/
structure Session where
  tree : FileTree
  out : Text
  err : Text
  log : LogSettings
  stamp : Stamp
  quiet : Bool

/-- A log file that cannot be opened. -/
structure LogFault where
  path : Path
  fault : PathFault
  deriving DecidableEq

namespace LogSettings

/-- Console lines or JSON on standard error. -/
def simple (level : Level) (format : LogFormat) : LogSettings :=
  ⟨level, [⟨format, "stderr".toList, none⟩]⟩

/-- The outputs that a record of a level reaches. -/
def reached (settings : LogSettings) (level : Level) : List LogOutput :=
  if level.reaches settings.level then
    settings.outputs.filter fun output =>
      level.reaches (output.level?.getD settings.level)
  else
    []

end LogSettings

namespace LogOutput

/-- Whether an output is one of the streams. -/
def isStream (output : LogOutput) : Bool :=
  output.destination == "stderr".toList || output.destination == "stdout".toList

/-- The line an output writes for a record. -/
def line (output : LogOutput) (stamp : Stamp) (record : Record) : Text :=
  match output.format with
  | .json => record.jsonLine stamp
  | .console => record.consoleLine stamp

/-- The tree with the file of an output in it.  The directories on the way are made as the path is
written; the file is opened at the place the path amounts to without its double dots. -/
def prepare (tree : FileTree) (output : LogOutput) : Except LogFault FileTree :=
  if output.isStream then
    .ok tree
  else
    let path := Path.ofText output.destination
    let place := path.locate []
    match tree.makePath path.parent path.parent.parts.length with
    | .error (path, fault) => .error ⟨path, fault⟩
    | .ok tree =>
        let path : Path := ⟨path.root, place⟩
        match tree.refusal? [] path, tree.entry? place with
        | some fault, _ => .error ⟨path, fault⟩
        | none, some .directory => .error ⟨path, .isDirectory⟩
        | none, some (.file _) => .ok tree
        | none, none => .ok (Dict.put place (.file ByteArray.empty) tree)

end LogOutput

namespace FileTree

/-- The tree with a text at the end of the file at a place. -/
def append (tree : FileTree) (place : Location) (text : Text) : FileTree :=
  match tree.entry? place with
  | some (.file bytes) => Dict.put place (.file (bytes ++ Utf8.encode text)) tree
  | _ => tree

end FileTree

namespace Session

/-- The start of a session: nothing is written, and warnings go to standard error. -/
def start (tree : FileTree) (time : Text) : Session :=
  { tree
    out := []
    err := []
    log := .default
    stamp := ⟨time, none⟩
    quiet := false }

/-- The session with other log settings; the files of its outputs are opened. -/
def configure (settings : LogSettings) (session : Session) : Except LogFault Session :=
  (settings.outputs.foldlM LogOutput.prepare session.tree).map fun tree =>
    { session with tree, log := settings }

/-- The session during a pass. -/
def startRun (runId : Text) (session : Session) : Session :=
  { session with stamp := { session.stamp with runId? := some runId } }

/-- A text on standard error. -/
def print (text : Text) (session : Session) : Session :=
  { session with err := session.err ++ text }

/-- A text on standard output. -/
def printOut (text : Text) (session : Session) : Session :=
  { session with out := session.out ++ text }

/-- A record written to one output.  The streams get nothing while the session is quiet. -/
def writeTo (record : Record) (session : Session) (output : LogOutput) : Session :=
  let text := output.line session.stamp record ++ ['\n']
  if output.isStream then
    if session.quiet then session
    else if output.destination = "stdout".toList then session.printOut text
    else session.print text
  else
    { session with
      tree := session.tree.append ((Path.ofText output.destination).locate []) text }

/-- A record written to every output it reaches. -/
def record (record : Record) (session : Session) : Session :=
  (session.log.reached record.level).foldl (writeTo record) session

/-- An event told to the log. -/
def tell (event : Event) (session : Session) : Session :=
  session.record (.ofEvent event)

/-- Events told to the log one after the other. -/
def tellAll (events : List Event) (session : Session) : Session :=
  events.foldl (fun session event => session.tell event) session

/-- What telling an event to the log does to the files of a tree. -/
def logFiles (session : Session) (event : Event) (tree : FileTree) : FileTree :=
  ({ session with tree }.tell event).tree

/-- A status printed and told to the log. -/
def status (status : Console.Status) (session : Session) :
    Except Console.MarkupFault Session :=
  status.print.map fun text => (session.print text).tell status.event

/-- The session during a longer activity: on a terminal, which shows its progress, the streams get
no log records; elsewhere the activity is announced by a line. -/
def beginActivity (terminal : Bool) (indent : Nat) (message : Text) (session : Session) :
    Except Console.MarkupFault Session :=
  if terminal then
    (Console.Markup.styled (Console.activityMarkup indent message)).map fun _ =>
      { session with quiet := true }
  else
    (Console.Markup.print (Console.activityLine indent message)).map fun text =>
      session.print text

/-- The session after a longer activity. -/
def endActivity (session : Session) : Session :=
  { session with quiet := false }

/-- The identifier of a pass: the given one, or a generated one when none or an empty one is given.
-/
def chooseRunId (given? : Option Text) (generated : Text) : Text :=
  match given? with
  | some (char :: rest) => char :: rest
  | _ => generated

end Session

end DeclLinker
