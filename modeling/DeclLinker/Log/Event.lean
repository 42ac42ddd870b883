import DeclLinker.Log.Level
import DeclLinker.Value.Scalar

/-!
# Events of a pass

Everything a pass tells the log is one of these events.  Each has a level, a name, fields in a fixed
order, and for progress messages the name of a logger.
-/

namespace DeclLinker

/-- How a placeholder was handled. -/
inductive Outcome where
  | builtin
  | sameFile
  | crossFile
  | unresolved
  deriving DecidableEq

/-- The name of an outcome. -/
def Outcome.toText : Outcome → Text
  | .builtin => "builtin".toList
  | .sameFile => "same_file".toList
  | .crossFile => "cross_file".toList
  | .unresolved => "unresolved".toList

/-- Something worth a log record. -/
inductive Event where
  | fileAnalyzed (file : Text) (exports placeholders : Nat)
  | indexBuilt (entries filled : Nat)
  | bannerMissing (banner : Text)
  | syntheticInjected (file : Text)
  | placeholderUnresolved (file described : Text)
  | placeholderResolved (file qualified : Text) (outcome : Outcome) (replacement : Text)
  | pluginsMissing (path : Text)
  | passStarted (runId : Text) (files indexSize : Nat)
  | passFinished (resolved fixes : Int) (unresolved written : Nat) (dryRun : Bool)
  | status (message style : Text)
  deriving DecidableEq

namespace Event

/-- The level of an event. -/
def level : Event → Level
  | .bannerMissing .. | .placeholderUnresolved .. => .warning
  | .passStarted .. | .passFinished .. => .info
  | _ => .debug

/-- The name of an event. -/
def name : Event → Text
  | .fileAnalyzed .. => "file_analyzed".toList
  | .indexBuilt .. => "type_index_built".toList
  | .bannerMissing .. => "banner_missing".toList
  | .syntheticInjected .. => "synthetic_injected".toList
  | .placeholderUnresolved .. => "placeholder_unresolved".toList
  | .placeholderResolved .. => "placeholder_resolved".toList
  | .pluginsMissing .. => "plugins_dir_missing".toList
  | .passStarted .. => "pass_started".toList
  | .passFinished .. => "pass_finished".toList
  | .status .. => "status".toList

/-- A field with a text. -/
def textField (name : String) (value : Text) : Text × Scalar :=
  (name.toList, .str value)

/-- A field with a number. -/
def countField (name : String) (value : Int) : Text × Scalar :=
  (name.toList, .int value)

/-- The fields of an event. -/
def fields : Event → List (Text × Scalar)
  | .fileAnalyzed file exports placeholders =>
      [textField "file" file, countField "exports" exports,
        countField "placeholders" placeholders]
  | .indexBuilt entries filled =>
      [countField "entries" entries, countField "registry_filled" filled]
  | .bannerMissing banner => [textField "banner" banner]
  | .syntheticInjected file => [textField "file" file]
  | .placeholderUnresolved file described => [textField "file" file, textField "ref" described]
  | .placeholderResolved file qualified outcome replacement =>
      [textField "file" file, textField "ref" qualified, textField "outcome" outcome.toText,
        textField "replacement" replacement]
  | .pluginsMissing path => [textField "path" path]
  | .passStarted runId files indexSize =>
      [textField "run_id" runId, countField "files" files, countField "index_size" indexSize]
  | .passFinished resolved fixes unresolved written dryRun =>
      [countField "resolved" resolved, countField "structural_fixes" fixes,
        countField "unresolved" unresolved, countField "written" written,
        ("dry_run".toList, .bool dryRun)]
  | .status message style => [textField "message" message, textField "style" style]

/-- The logger an event is bound to. -/
def logger? : Event → Option Text
  | .status .. => some "progress".toList
  | _ => none

end Event

end DeclLinker
