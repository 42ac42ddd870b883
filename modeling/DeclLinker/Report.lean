import DeclLinker.Path.Basic

/-!
# Reports

What a pass did to each file, and the totals over all files.  Counts are integers, so that a report
from elsewhere can be totalled and shown whatever it says.
-/

namespace DeclLinker

/-- What happened to one file. -/
structure FileReport where
  path : Path
  fixes : Int
  injected : Bool
  resolved : Int
  unresolved : List Text
  imports : Int
  written : Bool
  deriving DecidableEq

namespace FileReport

/-- The name of the file. -/
def fileName (report : FileReport) : Text :=
  report.path.name

/-- Whether some stage changed the file. -/
def changed (report : FileReport) : Bool :=
  0 < report.resolved || 0 < report.fixes || report.injected

/-- Whether there is something to tell about the file. -/
def hasActivity (report : FileReport) : Bool :=
  report.changed || !report.unresolved.isEmpty

end FileReport

/-- What a pass did. -/
structure PassReport where
  dryRun : Bool
  scanned : Int
  indexSize : Int
  files : List FileReport
  deriving DecidableEq

namespace PassReport

/-- Resolved placeholders of all files. -/
def resolved (report : PassReport) : Int :=
  report.files.foldr (fun file total => file.resolved + total) 0

/-- Structural fixes of all files. -/
def fixes (report : PassReport) : Int :=
  report.files.foldr (fun file total => file.fixes + total) 0

/-- How many files were written. -/
def written (report : PassReport) : Nat :=
  report.files.countP FileReport.written

/-- The unresolved placeholders of all files, each behind its file name. -/
def unresolved (report : PassReport) : List Text :=
  report.files.flatMap fun file =>
    file.unresolved.map fun described => file.fileName ++ ':' :: ' ' :: described

end PassReport

end DeclLinker
