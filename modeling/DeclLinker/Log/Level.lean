import DeclLinker.Text.Basic

/-!
# Log levels
-/

namespace DeclLinker

/-- How urgent a log record is. -/
inductive Level where
  | debug
  | info
  | warning
  | error
  | critical
  deriving DecidableEq

namespace Level

/-- All levels, the least urgent first. -/
def all : List Level := [.debug, .info, .warning, .error, .critical]

/-- The rank of a level; more urgent levels rank higher. -/
def rank : Level → Nat
  | .debug => 10
  | .info => 20
  | .warning => 30
  | .error => 40
  | .critical => 50

/-- The name of a level in log lines. -/
def label : Level → Text
  | .debug => "debug".toList
  | .info => "info".toList
  | .warning => "warning".toList
  | .error => "error".toList
  | .critical => "critical".toList

/-- The name of a level in settings. -/
def setting : Level → Text
  | .debug => "DEBUG".toList
  | .info => "INFO".toList
  | .warning => "WARNING".toList
  | .error => "ERROR".toList
  | .critical => "CRITICAL".toList

/-- The level with the given name in log lines. -/
def ofLabel? (text : Text) : Option Level :=
  all.find? fun level => level.label == text

/-- Other names under which records are made. -/
def otherNames : List (Text × Level) :=
  [("msg".toList, .info), ("warn".toList, .warning), ("exception".toList, .error),
    ("fatal".toList, .critical)]

/-- The level of the records that are made under a name. -/
def ofName? (text : Text) : Option Level :=
  match ofLabel? text with
  | some level => some level
  | none => otherNames.lookup text

/-- Whether a record of level `level` passes a threshold. -/
def reaches (level threshold : Level) : Bool :=
  threshold.rank ≤ level.rank

end Level

end DeclLinker
