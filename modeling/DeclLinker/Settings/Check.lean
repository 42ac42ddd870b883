import DeclLinker.Path.Home
import DeclLinker.Settings.Basic
import DeclLinker.Settings.Issue
import DeclLinker.Settings.WholeNumber
import DeclLinker.Text.Utf8

/-!
# Checking configuration data

Each section is checked field by field in a fixed order.  A field that is absent has its default;
fields a section does not know are passed over.  Numbers are accepted in several spellings, and a
log destination is brought into the normal form of a path.
-/

namespace DeclLinker

namespace Check

/-- A text that bytes spell. -/
def textOfBytes? (bytes : List UInt8) : Option Text :=
  (Utf8.decode (ByteArray.mk bytes.toArray)).toOption

/-- A text, from a text or from bytes that spell one. -/
def text : Value → Checked Text
  | .scalar (.str text) => .ok text
  | .scalar (.halved points) => .ok (Text.withoutHalves points)
  | .scalar (.bytes bytes) =>
      match textOfBytes? bytes with
      | some text => .ok text
      | none => Checked.fail .notUnicode (.scalar (.bytes bytes))
  | value => Checked.fail .notText value

/-- One of several named choices. -/
def choice {α : Type} (name : α → Text) (choices : List α) (value : Value) : Checked α :=
  match value with
  | .scalar (.str text) =>
      match choices.find? fun choice => name choice == text with
      | some choice => .ok choice
      | none => Checked.fail (.notOneOf (choices.map name)) value
  | .scalar (.halved _) => Checked.fail .notUnicode value
  | _ => Checked.fail (.notOneOf (choices.map name)) value

/-- A choice, or nothing for null. -/
def optional {α : Type} (check : Value → Checked α) : Value → Checked (Option α)
  | .scalar .null => .ok none
  | value => (check value).map some

/-- The items of a list from an index on. -/
def itemsFrom {α : Type} (check : Value → Checked α) : Nat → List Value → Checked (List α)
  | _, [] => .ok []
  | index, value :: rest =>
      Checked.make List.cons
        |>.apply (Checked.inside (.item index) (check value))
        |>.apply (itemsFrom check (index + 1) rest)

/-- A list whose items pass a check, from a list, a tuple or a set. -/
def list {α : Type} (check : Value → Checked α) (value : Value) : Checked (List α) :=
  match value.items? with
  | some items => itemsFrom check 0 items
  | none => Checked.fail .notList value

/-- The key of a dictionary of texts. -/
def key (name : Scalar) : Checked Text :=
  Checked.inside .key (text (.scalar name))

/-- The entries of a dictionary of texts. -/
def entries : List (Scalar × Value) → Checked (List (Text × Text))
  | [] => .ok []
  | (name, value) :: rest =>
      let pair := Checked.make Prod.mk |>.apply (key name) |>.apply (text value)
      Checked.make List.cons
        |>.apply (Checked.inside (.entry name) pair)
        |>.apply (entries rest)

/-- A dictionary of texts. -/
def textDict (value : Value) : Checked (Dict Text Text) :=
  match value.fields? with
  | some fields => (entries fields).map Dict.ofPairs
  | none => Checked.fail .notMapping value

/-- Whether a whole number fits a machine word of 64 bits and is not its least value. -/
def fitsWord (number : Int) : Bool :=
  number.natAbs < Nat.pow 2 63

/-- An integer, from a number with a point. -/
def intOfFloat (number : Binary64) : Checked Int :=
  let fail (problem : Problem) := Checked.fail problem (.scalar (.float number))
  match number, number.toInt? with
  | .finite .., some whole => if fitsWord whole then .ok whole else fail .tooLarge
  | .finite .., none => fail .fractional
  | _, _ => fail .notFinite

/-- An integer, from the text that a value is. -/
def intOfText (value : Value) (text : Text) : Checked Int :=
  let fail (problem : Problem) := Checked.fail problem value
  if WholeNumber.isTooLong text then
    fail .tooLarge
  else
    match WholeNumber.ofText? text with
    | some number => .ok number
    | none => fail .notNumeral

/-- An integer, from a number, a truth value, a text or bytes that spell one. -/
def int : Value → Checked Int
  | .scalar (.int number) => .ok number
  | .scalar (.bool truth) => .ok (if truth then 1 else 0)
  | .scalar (.float number) => intOfFloat number
  | .scalar (.str text) => intOfText (.scalar (.str text)) text
  | .scalar (.halved points) => Checked.fail .notUnicode (.scalar (.halved points))
  | .scalar (.bytes bytes) =>
      match textOfBytes? bytes with
      | some text => intOfText (.scalar (.bytes bytes)) text
      | none => Checked.fail .notNumeral (.scalar (.bytes bytes))
  | value => Checked.fail .notNumber value

/-- A text that meets a condition. -/
def textWhere (holds : Text → Bool) (reason : Text → Text) (value : Value) : Checked Text :=
  (text value).andThen fun text =>
    if holds text then .ok text else Checked.fail (.rejected (reason text)) value

/-- A field of a section, or its default. -/
def field {α : Type} (fields : Fields) (name : String) (default : α)
    (check : Value → Checked α) : Checked α :=
  match Dict.get? (.str name.toList) fields with
  | none => .ok default
  | some value => Checked.inside (.field name.toList) (check value)

/-- A section checked by its fields. -/
def sectionOf {α : Type} (name : String) (check : Fields → Checked α) (value : Value) :
    Checked α :=
  match value.fields? with
  | some fields => check fields
  | none => Checked.fail (.notSection name.toList) value

end Check

open Check

namespace LogOutput

/-- The destinations that are not files. -/
def streams : List Text := ["stderr".toList, "stdout".toList]

/-- A log destination: a stream, or an absolute path in normal form. -/
def checkDestination (homes : Homes) (value : Value) : Checked Text :=
  (text value).andThen fun text =>
    if streams.contains text then
      .ok text
    else
      match (Path.ofText text).expandHome? homes with
      | none => .error .homeless
      | some path =>
          if path.isAbsolute then
            .ok path.toText
          else
            Checked.fail
              (.rejected ("File destination must be absolute path: ".toList ++ text)) value

/-- The fields of a log output. -/
def ofFields (homes : Homes) (fields : Fields) : Checked LogOutput :=
  Checked.make LogOutput.mk
    |>.apply (field fields "format" default.format (choice LogFormat.toText [.json, .console]))
    |>.apply (field fields "destination" default.destination (checkDestination homes))
    |>.apply (field fields "level" default.level?
      (optional (choice Level.setting Level.all)))

/-- A log output from plain data. -/
def check (homes : Homes) : Value → Checked LogOutput :=
  sectionOf "LogOutputConfig" (ofFields homes)

end LogOutput

namespace LogSettings

/-- The fields of the log settings. -/
def ofFields (homes : Homes) (fields : Fields) : Checked LogSettings :=
  Checked.make LogSettings.mk
    |>.apply (field fields "level" default.level (choice Level.setting Level.all))
    |>.apply (field fields "outputs" default.outputs (list (LogOutput.check homes)))

/-- Log settings from plain data. -/
def check (homes : Homes) : Value → Checked LogSettings :=
  sectionOf "LoggingConfig" (ofFields homes)

end LogSettings

namespace CorpusSettings

/-- A file suffix starts with a dot. -/
def checkSuffix : Value → Checked Text :=
  textWhere (fun text => ['.'].isPrefixOf text)
    fun text => "File suffix must start with '.': ".toList ++ text

/-- A banner is one line that is not blank. -/
def checkBanner : Value → Checked Text :=
  textWhere (fun text => !(Text.trim text).isEmpty && !text.contains '\n')
    fun _ => "Banner must be a single non-empty line".toList

/-- The fields of the corpus settings. -/
def ofFields (fields : Fields) : Checked CorpusSettings :=
  Checked.make CorpusSettings.mk
    |>.apply (field fields "generated_dir" default.directory text)
    |>.apply (field fields "plugins_subdir" default.plugins text)
    |>.apply (field fields "file_suffix" default.suffix checkSuffix)
    |>.apply (field fields "excluded_suffixes" default.excluded (list text))
    |>.apply (field fields "banner" default.banner checkBanner)
    |>.apply (field fields "family_prefixes" default.families (list text))

/-- Corpus settings from plain data. -/
def check : Value → Checked CorpusSettings :=
  sectionOf "CorpusConfig" ofFields

end CorpusSettings

namespace ResolveSettings

/-- A report limit is not negative. -/
def checkLimit (value : Value) : Checked Nat :=
  (int value).andThen fun number =>
    match number with
    | .ofNat limit => .ok limit
    | .negSucc _ =>
        Checked.fail
          (.rejected ("Report limit must be >= 0, got ".toList ++ Text.ofInt number)) value

/-- The fields of the resolve settings. -/
def ofFields (fields : Fields) : Checked ResolveSettings :=
  Checked.make ResolveSettings.mk
    |>.apply (field fields "extra_builtins" default.builtins textDict)
    |>.apply (field fields "extra_namespaces" default.packages textDict)
    |>.apply (field fields "unresolved_report_limit" default.limit checkLimit)

/-- Resolve settings from plain data. -/
def check : Value → Checked ResolveSettings :=
  sectionOf "ResolveConfig" ofFields

end ResolveSettings

namespace Settings

/-- The three sections. -/
def ofFields (homes : Homes) (fields : Fields) : Checked Settings :=
  Checked.make Settings.mk
    |>.apply (field fields "logging" default.logging (LogSettings.check homes))
    |>.apply (field fields "corpus" default.corpus CorpusSettings.check)
    |>.apply (field fields "resolve" default.resolve ResolveSettings.check)

/-- Settings from plain data. -/
def check (homes : Homes) : Value → Checked Settings :=
  sectionOf "TypelinkConfig" (ofFields homes)

end Settings

end DeclLinker
