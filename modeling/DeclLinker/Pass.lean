import DeclLinker.Failure
import DeclLinker.FileTree
import DeclLinker.Linked
import DeclLinker.Settings.Basic

/-!
# A pass over the generated files

A pass finds the generated files, reads and analyses all of them, builds the index once, and then
links them in order, writing those that changed.  Every read comes before the first write.  A
failure ends the pass; what was written stays written.

The pass tells the log what it does as it goes.  Where the log is kept in files of the same tree,
what was told is there for the reads that follow, and a write replaces it.
-/

namespace DeclLinker

/-- What a disk refuses, and with which reason: reading a file, writing it, or listing a
directory. -/
structure Faults where
  read : Path → Option Text
  write : Path → Option Text
  list : Path → Option Text

/-- A disk that refuses nothing. -/
def Faults.none : Faults := ⟨fun _ => .none, fun _ => .none, fun _ => .none⟩

/-- A tree with a working directory, what it refuses, and what telling an event to the log does to
its files: nothing, unless the log is kept in them. -/
structure Disk where
  tree : FileTree
  here : Location
  faults : Faults
  log : Event → FileTree → FileTree := fun _ tree => tree

/-- A file found in the corpus. -/
structure SourceFile where
  path : Path
  tier : Tier
  deriving DecidableEq

/-- What keeps discovery from finding files: a failure, or a directory it cannot even ask about. -/
inductive DiscoveryFault where
  | failure (cause : Failure)
  | unaskable (path : Path)

namespace Disk

/-- The disk after an event was told to the log. -/
def tell (disk : Disk) (event : Event) : Disk :=
  { disk with tree := disk.log event disk.tree }

/-- The disk after events were told to the log one after the other. -/
def tellAll (disk : Disk) (events : List Event) : Disk :=
  events.foldl tell disk

/-- The text of a file, with its line endings unified. -/
def readText (disk : Disk) (path : Path) : Except Failure Text :=
  let refused (reason : Text) : Failure := .readFailed (.str path.toText) (.str reason)
  match disk.faults.read path with
  | some reason => .error (refused reason)
  | none =>
      match disk.tree.read disk.here path with
      | .error fault => .error (refused (fault.message path))
      | .ok bytes =>
          match Utf8.decode bytes with
          | .error fault => .error (refused fault.message)
          | .ok text => .ok text.unifyNewlines

/-- The disk with a new text in a file. -/
def writeText (disk : Disk) (path : Path) (text : Text) : Except Failure Disk :=
  let refused (reason : Text) : Failure := .writeFailed (.str path.toText) (.str reason)
  match disk.faults.write path with
  | some reason => .error (refused reason)
  | none =>
      match disk.tree.write disk.here path (Utf8.encode text) with
      | .error fault => .error (refused (fault.message path))
      | .ok tree => .ok { disk with tree }

end Disk

namespace CorpusSettings

/-- Whether a file of the given name belongs to the corpus. -/
def isEligible (settings : CorpusSettings) (name : Text) : Bool :=
  settings.suffix.isSuffixOf name && !settings.excluded.any fun ending => ending.isSuffixOf name

/-- The directory of the second tier. -/
def pluginsDirectory (settings : CorpusSettings) (directory : Path) : Path :=
  directory.join (Path.ofText settings.plugins)

end CorpusSettings

namespace Disk

/-- The files of one directory that belong to the corpus, by name. -/
def filesIn (disk : Disk) (settings : CorpusSettings) (tier : Tier) (directory : Path) :
    Except Failure (List SourceFile) :=
  let refused (reason : Text) : Failure := .readFailed (.str directory.toText) (.str reason)
  match disk.faults.list directory with
  | some reason => .error (refused reason)
  | none =>
      match disk.tree.fileNames disk.here directory with
      | .error fault => .error (refused (fault.message directory))
      | .ok names =>
          .ok ((names.filter settings.isEligible).map fun name =>
            ⟨⟨directory.root, directory.parts ++ [name]⟩, tier⟩)

/-- The files of the corpus: those of the directory itself, then those of the second tier, which
need not be there. -/
def discover (disk : Disk) (settings : CorpusSettings) (directory : Path) :
    Except Failure (List SourceFile) :=
  if disk.tree.isDirectory disk.here directory then do
    let core ← disk.filesIn settings .core directory
    let plugins := settings.pluginsDirectory directory
    if disk.tree.isDirectory disk.here plugins then
      let extra ← disk.filesIn settings .plugin plugins
      pure (core ++ extra)
    else
      pure core
  else
    .error (.directoryMissing (.str directory.toText))

/-- The first directory that discovery cannot even ask about, because a name in its path is too
long for any tree. -/
def unaskable? (disk : Disk) (settings : CorpusSettings) (directory : Path) : Option Path :=
  let tooLong (path : Path) : Bool := disk.tree.refusal? disk.here path == some .nameTooLong
  let plugins := settings.pluginsDirectory directory
  if tooLong directory then
    some directory
  else
    match disk.filesIn settings .core directory with
    | .ok _ => if tooLong plugins then some plugins else none
    | .error _ => none

/-- The answer of discovery: the files of the corpus, or why there are none. -/
def survey (disk : Disk) (settings : CorpusSettings) (directory : Path) :
    Except DiscoveryFault (List SourceFile) :=
  match disk.unaskable? settings directory with
  | some path => .error (.unaskable path)
  | none => (disk.discover settings directory).mapError .failure

/-- What the log is told about discovery: a second tier that is not there. -/
def discoveryEvents (disk : Disk) (settings : CorpusSettings) (directory : Path) : List Event :=
  let plugins := settings.pluginsDirectory directory
  match disk.filesIn settings .core directory with
  | .ok _ =>
      if disk.tree.isDirectory disk.here directory &&
          !disk.tree.isDirectory disk.here plugins then
        [.pluginsMissing plugins.toText]
      else
        []
  | .error _ => []

end Disk

/-- A file that was read and analysed. -/
structure ReadFile where
  analysis : Analysis
  text : Text
  deriving DecidableEq

/-- What a stage of a pass answers: the events told to the log, and a result or a failure. -/
structure Told (α : Type) where
  events : List Event
  result : Except Failure α

namespace Disk

/-- A file read and analysed. -/
def analyze (disk : Disk) (families : List Text) (file : SourceFile) : Except Failure ReadFile :=
  (disk.readText file.path).map fun text =>
    ⟨Analysis.ofText families file.path file.tier text, text⟩

/-- All files read and analysed, up to the first that cannot be read; each analysis is told to the
log before the next file is read. -/
def analyzeAll (families : List Text) : Disk → List SourceFile → Disk × Told (List ReadFile)
  | disk, [] => (disk, ⟨[], .ok []⟩)
  | disk, file :: rest =>
      match disk.analyze families file with
      | .error failure => (disk, ⟨[], .error failure⟩)
      | .ok read =>
          let (last, told) := analyzeAll families (disk.tell read.analysis.event) rest
          (last, ⟨read.analysis.event :: told.events,
            told.result.map fun reads => read :: reads⟩)

end Disk

/-- How a pass over a disk ended: the disk after it, the events told to the log, and the report or
the failure. -/
structure PassOutcome where
  disk : Disk
  events : List Event
  result : Except Failure PassReport

namespace Pass

/-- The linked texts of files that were read, under the index of all of them. -/
def linkAll (here : Location) (settings : Settings) (files : List ReadFile) :
    List Linked :=
  let tables := settings.tables
  let index := Index.ofAnalyses tables (files.map ReadFile.analysis)
  files.map fun file =>
    Linked.ofText here tables settings.corpus.suffix index file.analysis file.text

/-- The disk and the report after one file: a changed text is written unless the run is dry. -/
def store (dryRun : Bool) (disk : Disk) (linked : Linked) :
    Except Failure (Disk × FileReport) :=
  if linked.report.changed && !dryRun then
    (disk.writeText linked.report.path linked.text).map fun disk =>
      (disk, { linked.report with written := true })
  else
    .ok (disk, linked.report)

/-- The disk, the events and the reports after storing files up to the first that cannot be
written; what linking a file tells the log comes before its write. -/
def storeAll (dryRun : Bool) : Disk → List Linked → Disk × Told (List FileReport)
  | disk, [] => (disk, ⟨[], .ok []⟩)
  | disk, linked :: rest =>
      let disk := disk.tellAll linked.events
      match store dryRun disk linked with
      | .error failure => (disk, ⟨linked.events, .error failure⟩)
      | .ok (next, report) =>
          let (last, told) := storeAll dryRun next rest
          (last, ⟨linked.events ++ told.events,
            told.result.map fun reports => report :: reports⟩)

/-- The event at the end of a pass. -/
def finished (report : PassReport) : Event :=
  .passFinished report.resolved report.fixes report.unresolved.length report.written report.dryRun

/-- The second half of a pass: the files that were read are linked and stored. -/
def finish (disk : Disk) (settings : Settings) (runId : Text) (dryRun : Bool)
    (files : List ReadFile) : PassOutcome :=
  let analyses := files.map ReadFile.analysis
  let tables := settings.tables
  let size := (Index.ofAnalyses tables analyses).size
  let opening := [Index.builtEvent tables analyses, .passStarted runId files.length size]
  let (last, told) := storeAll dryRun (disk.tellAll opening) (linkAll disk.here settings files)
  match told.result with
  | .error failure => ⟨last, opening ++ told.events, .error failure⟩
  | .ok reports =>
      let report : PassReport := ⟨dryRun, files.length, size, reports⟩
      ⟨last.tell (finished report), opening ++ told.events ++ [finished report], .ok report⟩

/-- A pass over the corpus in a directory. -/
def run (disk : Disk) (settings : Settings) (directory : Path) (runId : Text) (dryRun : Bool) :
    PassOutcome :=
  let found := disk.discoveryEvents settings.corpus directory
  match disk.discover settings.corpus directory with
  | .error failure => ⟨disk, found, .error failure⟩
  | .ok files =>
      let (disk, told) := Disk.analyzeAll settings.corpus.families (disk.tellAll found) files
      match told.result with
      | .error failure => ⟨disk, found ++ told.events, .error failure⟩
      | .ok reads =>
          let outcome := finish disk settings runId dryRun reads
          { outcome with events := found ++ told.events ++ outcome.events }

end Pass

end DeclLinker
