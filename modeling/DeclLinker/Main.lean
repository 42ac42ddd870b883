import DeclLinker.Command.Run
import Std.Time.Format

/-!
# The program

The command itself is a function on a file tree.  Around it, this module reads what the command will
look at into a tree, runs it, writes the files that changed, and prints what the session holds.
When a file cannot be written, the command is run once more on the same tree with that write
refused, so that it ends as it would have ended on the disk.
-/

namespace DeclLinker.Program

open Command

/-- What was read from the disk: a tree, and the reasons why some files could not be read. -/
structure Snapshot where
  tree : FileTree
  refused : List (Location × Text)

/-- The text of the absolute path of a place. -/
def placeText (place : Location) : String :=
  String.ofList (Path.mk .slash place).toText

namespace Snapshot

/-- What stands at a place is added: a file with its bytes, or a directory without its entries. -/
def addEntry (snapshot : Snapshot) (place : Location) : IO Snapshot := do
  let file := (← IO.currentDir) / placeText place
  if ← file.isDir then
    pure { snapshot with tree := snapshot.tree.makeDirectories place }
  else if ← file.pathExists then
    let tree := snapshot.tree.makeDirectories place.dropLast
    try
      let bytes ← IO.FS.readBinFile file
      pure { snapshot with tree := Dict.put place (.file bytes) tree }
    catch fault =>
      pure
        { tree := Dict.put place (.file ByteArray.empty) tree
          refused := (place, (toString fault).toList) :: snapshot.refused }
  else
    pure snapshot

/-- A directory is added with its entries, by name. -/
def addDirectory (snapshot : Snapshot) (place : Location) : IO Snapshot := do
  let mut snapshot ← snapshot.addEntry place
  let directory := (← IO.currentDir) / placeText place
  if ← directory.isDir then
    let names := (← directory.readDir).toList.map fun entry => entry.fileName.toList
    for name in names.mergeSort Text.le do
      snapshot ← snapshot.addEntry (place ++ [name])
  pure snapshot

/-- The reasons why files cannot be read, as faults of a disk. -/
def faults (snapshot : Snapshot) (here : Location) : Faults :=
  { Faults.none with read := fun path => Dict.get? (path.locate here) snapshot.refused }

/-- The paths that arguments may name: each argument, and what stands behind an equals sign. -/
def named (arguments : List Text) : List Path :=
  arguments.flatMap fun argument =>
    (argument :: (Arguments.splitValue argument).2.toList).map Path.ofText

/-- Everything the command will look at. -/
def take (around : Surroundings) (arguments : List Text) : IO Snapshot := do
  let here := around.here
  let mut snapshot ← (Snapshot.mk [] []).addEntry here
  for path in named arguments do
    snapshot ← snapshot.addEntry (path.locate here)
  match Request.ofArguments arguments with
  | .ok (.resolve _ rest) =>
      match ResolveRequest.ofArguments snapshot.tree here rest with
      | .ok (some request) =>
          let source := around.source snapshot.tree
          for path in [source.homeFile, SettingsSource.projectFile request.root] do
            snapshot ← snapshot.addEntry (path.locate here)
          let source := { source with tree := snapshot.tree }
          match Settings.load source request.root request.overrides with
          | .ok settings =>
              if let some directory := settings.directory? source.homes request.root then
                snapshot ← snapshot.addDirectory (directory.locate here)
                let plugins := settings.corpus.pluginsDirectory directory
                snapshot ← snapshot.addDirectory (plugins.locate here)
              for output in settings.logging.outputs do
                if !output.isStream then
                  snapshot ← snapshot.addEntry ((Path.ofText output.destination).locate here)
          | .error _ => pure ()
      | _ => pure ()
  | _ => pure ()
  pure snapshot

end Snapshot

/-- The first file of a tree that differs from another tree and cannot be written, with the reason;
all that differ before it are written. -/
def writeChanged (before after : FileTree) : IO (Option (Location × Text)) := do
  for (place, entry) in after do
    match entry, before.entry? place with
    | .directory, some _ => pure ()
    | .directory, none => IO.FS.createDirAll (placeText place)
    | .file bytes, held =>
        let same := match held with
          | some (.file old) => old == bytes
          | _ => false
        if !same then
          try
            IO.FS.writeBinFile (placeText place) bytes
          catch fault =>
            return some (place, (toString fault).toList)
  return none

/-- The environment assignments of the process. -/
def environment : IO (List (Text × Text)) := do
  let bytes ← IO.FS.readBinFile "/proc/self/environ"
  let text := match Utf8.decode bytes with
    | .ok text => text
    | .error _ => []
  pure ((text.splitOn (Char.ofNat 0)).filterMap fun assignment =>
    match Arguments.splitValue assignment with
    | (name, some value) => some (name, value)
    | (_, none) => none)

/-- The home directories of the users of the machine, by name. -/
def users : IO (Dict Text Text) := do
  let bytes ← try IO.FS.readBinFile "/etc/passwd" catch _ => pure ByteArray.empty
  let text := match Utf8.decode bytes with
    | .ok text => text
    | .error _ => []
  pure (Dict.ofPairs ((Text.lines text).filterMap fun line =>
    match line.splitOn ':' with
    | [name, _, _, _, _, directory, _] => some (name, directory)
    | _ => none))

/-- Twelve random hexadecimal digits. -/
def generateRunId : IO Text := do
  let bytes ← IO.getRandomBytes 6
  pure (bytes.toList.flatMap fun byte => Text.hex 2 byte.toNat)

/-- The time in the form in which log lines carry it. -/
def currentTime : IO Text := do
  let now ← Std.Time.Timestamp.now
  let wall := now.toWallTime Std.Time.TimeZone.Offset.zero
  pure ((Std.Time.PlainDateTime.ofWallTime wall).format "uuuu-MM-dd HH:mm:ss").toList

/-- The surroundings of the process. -/
def surroundings : IO Surroundings := do
  let assignments ← environment
  let here := (Path.ofText (← IO.currentDir).toString.toList).locate []
  pure
    { here
      home := Path.ofText ((Dict.get? "HOME".toList assignments).getD ['/'])
      users := ← users
      environment := assignments
      faults := Faults.none
      terminal := ← (← IO.getStderr).isTty
      width? := none
      runId := ← generateRunId }

/-- A run of the command, with its changes written. -/
def perform (around : Surroundings) (arguments : List Text) : IO (Ending × Session) := do
  let snapshot ← Snapshot.take around arguments
  let time ← currentTime
  let around := { around with faults := snapshot.faults around.here }
  let (ending, session) := Command.run around snapshot.tree time arguments
  match ← writeChanged snapshot.tree session.tree with
  | none => pure (ending, session)
  | some (place, reason) =>
      let refuse (path : Path) : Option Text :=
        if path.locate around.here = place then some reason else none
      pure (Command.run { around with faults := { around.faults with write := refuse } }
        snapshot.tree time arguments)

end DeclLinker.Program

open DeclLinker Command in
/-- The program: it prints what the session holds and ends with its status. -/
def main (arguments : List String) : IO UInt32 := do
  let around ← Program.surroundings
  let (ending, session) ← Program.perform around (arguments.map String.toList)
  IO.print (String.ofList session.out)
  IO.eprint (String.ofList session.err)
  match ending with
  | .status code => pure (UInt32.ofNat code)
  | .crash cause =>
      IO.eprintln (String.ofList cause.message)
      pure 1
