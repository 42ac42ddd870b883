import DeclLinker.Value.Basic

/-!
# Failures

What stops a run: settings that cannot be read or are not valid, and generated files that are
missing, cannot be read or cannot be written.  A failure has a code, a text, and details for
programs that handle it.
-/

namespace DeclLinker

/-- The kinds of failure. -/
inductive FailureCode where
  | settingsSyntax
  | settingsValue
  | directoryMissing
  | readFailed
  | writeFailed
  deriving DecidableEq

namespace FailureCode

/-- All codes. -/
def all : List FailureCode :=
  [.settingsSyntax, .settingsValue, .directoryMissing, .readFailed, .writeFailed]

/-- The number of a code: settings from 2001 on, generated files from 3001 on. -/
def number : FailureCode → Nat
  | .settingsSyntax => 2001
  | .settingsValue => 2002
  | .directoryMissing => 3001
  | .readFailed => 3002
  | .writeFailed => 3003

/-- The name of a code. -/
def name : FailureCode → Text
  | .settingsSyntax => "CONFIG_PARSE_ERROR".toList
  | .settingsValue => "CONFIG_INVALID_VALUE".toList
  | .directoryMissing => "CORPUS_DIR_NOT_FOUND".toList
  | .readFailed => "CORPUS_READ_FAILED".toList
  | .writeFailed => "CORPUS_WRITE_FAILED".toList

/-- The code with a number. -/
def ofNumber? (number : Nat) : Option FailureCode :=
  all.find? fun code => code.number == number

/-- The code a value stands for: a number that is whole, in either form. -/
def ofValue? : Value → Option FailureCode
  | .scalar (.int number) => if 0 ≤ number then ofNumber? number.toNat else none
  | .scalar (.float number) =>
      match number.toInt? with
      | some (.ofNat number) => ofNumber? number
      | _ => none
  | _ => none

end FailureCode

/-- A failure: its code, its text, whether trying again may help, and its details. -/
structure Failure where
  code : FailureCode
  text : Text
  retryable : Bool
  details : List (Text × Value)

namespace Failure

/-- The message for a failure: code, name and text. -/
def message (failure : Failure) : Text :=
  '[' :: Text.ofNat failure.code.number ++ "] ".toList ++ failure.code.name ++ ": ".toList ++
    failure.text

/-- A settings file that cannot be read as settings. -/
def malformed (path reason : Value) : Failure :=
  { code := .settingsSyntax
    text := "Failed to parse config at ".toList ++ path.display ++ ": ".toList ++ reason.display
    retryable := false
    details := [("path".toList, path), ("reason".toList, reason)] }

/-- A setting with a value it cannot have. -/
def invalid (field value reason : Value) : Failure :=
  { code := .settingsValue
    text := "Invalid value for '".toList ++ field.display ++ "': ".toList ++ reason.display
    retryable := false
    details :=
      [("field".toList, field), ("value".toList, .str value.display), ("reason".toList, reason)] }

/-- No directory of generated files. -/
def directoryMissing (path : Value) : Failure :=
  { code := .directoryMissing
    text := "Generated directory not found: ".toList ++ path.display
    retryable := false
    details := [("path".toList, path)] }

/-- A directory or a file that cannot be read. -/
def readFailed (path reason : Value) : Failure :=
  { code := .readFailed
    text := "Failed to read ".toList ++ path.display ++ ": ".toList ++ reason.display
    retryable := true
    details := [("path".toList, path), ("reason".toList, reason)] }

/-- A file that cannot be written. -/
def writeFailed (path reason : Value) : Failure :=
  { code := .writeFailed
    text := "Failed to write ".toList ++ path.display ++ ": ".toList ++ reason.display
    retryable := true
    details := [("path".toList, path), ("reason".toList, reason)] }

end Failure

end DeclLinker
