import DeclLinker.Log.Event
import DeclLinker.Value.Json

/-!
# Log records

A record is written as a line: for the console with its fields sorted by name, or as a JSON object.
Both carry the time and, during a pass, the identifier of the pass.  On the console a call stack and
an exception stand on lines of their own.
-/

namespace DeclLinker

/-- Something told to the log. -/
structure Record where
  level : Level
  name : Text
  fields : List (Text × Value)
  logger? : Option Text

/-- When a record was made, and during which pass. -/
structure Stamp where
  time : Text
  runId? : Option Text

namespace Record

/-- The record of an event. -/
def ofEvent (event : Event) : Record :=
  { level := event.level
    name := event.name
    fields := event.fields.map fun (name, scalar) => (name, .scalar scalar)
    logger? := event.logger? }

/-- All fields of a record: the logger, its own, the event, the level, the time, and the identifier
of the pass.  Its own fields replace the logger, and all others replace its own. -/
def allFields (stamp : Stamp) (record : Record) : Dict Text Value :=
  let logger := record.logger?.toList.map fun logger => ("logger".toList, Value.str logger)
  let runId := stamp.runId?.toList.map fun runId => ("run_id".toList, Value.str runId)
  Dict.ofPairs
    (logger ++ record.fields ++
      [("event".toList, Value.str record.name), ("level".toList, Value.str record.level.label),
        ("timestamp".toList, Value.str stamp.time)] ++
      runId)

/-- Whether a text would be unclear in a console line without quotes. -/
def needsQuotes (text : Text) : Bool :=
  text.any fun char =>
    [' ', '\t', '=', '\r', '\n', Text.singleQuote, Text.doubleQuote].contains char

/-- A value in a console line. -/
def consoleValue : Value → Text
  | .scalar (.str text) => if needsQuotes text then text.quoted else text
  | value => value.literal

/-- A field in a console line. -/
def consoleField (field : Text × Value) : Text :=
  field.1 ++ '=' :: consoleValue field.2

/-- The text without the blanks at its end. -/
def dropTrailing (text : Text) : Text :=
  (text.reverse.dropWhile fun char => char == ' ').reverse

/-- A value in square brackets. -/
def inBrackets (value : Value) : Text :=
  '[' :: value.display ++ [']']

/-- The fields that stand at the start of a console line, in order, with how each is shown. -/
def columns : List (Text × (Value → Text)) :=
  [("".toList, fun value => consoleField ([], value)), ("timestamp".toList, Value.display),
    ("level".toList, inBrackets), ("event".toList, Value.display),
    ("logger".toList, inBrackets), ("logger_name".toList, inBrackets)]

/-- The fields that stand below a console line. -/
def attachments : List Text :=
  ["stack".toList, "exception".toList, "exc_info".toList]

/-- Whether a field has a place of its own in a console line or below it. -/
def isPlaced (name : Text) : Bool :=
  (columns.map Prod.fst).contains name || attachments.contains name

/-- The line between a call stack and an exception. -/
def rule : Text :=
  List.replicate 79 '='

/-- What stands below a console line: the call stack, and the exception behind a rule.  A record may
also say that it was made while an exception was handled; here there never is one, so nothing more
than the rule comes of it. -/
def below (fields : Dict Text Value) : Text :=
  let shown? (name : String) : Option Value :=
    (Dict.get? name.toList fields).bind fun value =>
      match value with
      | .scalar .null => none
      | value => some value
  let exception? := shown? "exception"
  let raised := (Dict.get? "exc_info".toList fields).any fun value => !value.isEmpty
  (match shown? "stack" with
    | none => []
    | some stack =>
        '\n' :: stack.display ++
          if exception?.isSome || raised then "\n\n".toList ++ rule ++ ['\n'] else []) ++
  (match exception? with
    | some exception => '\n' :: exception.display
    | none => [])

/-- A record for the console: a line with time, level, name, logger and the other fields by name,
and what stands below it. -/
def consoleLine (stamp : Stamp) (record : Record) : Text :=
  let fields := record.allFields stamp
  let placed := columns.filterMap fun (name, render) => (Dict.get? name fields).map render
  let others := (fields.filter fun field => !isPlaced field.1).mergeSort fun first second =>
    Text.le first.1 second.1
  let parts := placed ++ others.map consoleField
  dropTrailing ([' '].intercalate (parts.filter fun part => !part.isEmpty)) ++ below fields

/-- A record as a JSON line. -/
def jsonLine (stamp : Stamp) (record : Record) : Text :=
  Json.render (Value.record (record.allFields stamp))

end Record

end DeclLinker
