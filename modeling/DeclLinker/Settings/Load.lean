import DeclLinker.Failure
import DeclLinker.FileTree
import DeclLinker.Settings.Check
import DeclLinker.Settings.Environment
import DeclLinker.Yaml.Document

/-!
# Loading settings

Settings come from four sources: a file in the home directory, a file in the project, the
environment, and overrides.  The sources are merged key by key, later ones over earlier ones, and
the result is checked as a whole.  A key at the top that is no section is an issue here.  Letter
case does not matter in the names of sections among overrides.  The settings that come out are
written out as plain data and checked once more.
-/

namespace DeclLinker

/-- What keeps settings from being loaded. -/
inductive LoadFault where
  | failure (cause : Failure)
  | unreadable (path : Path) (fault : PathFault)
  | document (fault : Yaml.Fault)
  | environment (name : Text)
  | tooDeep (fault : Json.Fault)
  | endless
  | keyNotText
  | homeless
  | unshowable
  | unsettled (refusal : Refusal)

namespace LoadFault

/-- The message for a fault. -/
def message : LoadFault → Text
  | .failure cause => cause.message
  | .unreadable path fault => fault.message path
  | .document fault => fault.message
  | .environment name =>
      "error parsing value for field ".toList ++ Text.doubleQuote :: name ++
        Text.doubleQuote :: " from source ".toList ++ Text.doubleQuote ::
        "EnvSettingsSource".toList ++ [Text.doubleQuote]
  | .tooDeep fault => fault.message
  | .endless => "maximum recursion depth exceeded while calling a Python object".toList
  | .keyNotText => "keywords must be strings".toList
  | .homeless => "Could not determine home directory.".toList
  | .unshowable => NumeralFault.unshowable.message
  | .unsettled (.issues found) =>
      ['\n'].intercalate (found.map fun issue =>
        issue.path ++ ": ".toList ++ issue.problem.message)
  | .unsettled .homeless => "Could not determine home directory.".toList

/-- What JSON that cannot be read in the variables of a section amounts to. -/
def ofJson : Text × Json.Fault → LoadFault
  | (name, .malformed) => .environment name
  | (_, fault) => .tooDeep fault

end LoadFault

/-- Where settings are looked for. -/
structure SettingsSource where
  tree : FileTree
  here : Location
  home : Path
  users : Dict Text Text
  environment : List (Text × Text)

namespace SettingsSource

/-- The settings file in the home directory. -/
def homeFile (source : SettingsSource) : Path :=
  source.home.join (Path.ofText ".config/typelink/config.yaml".toList)

/-- The home directories that a tilde in a setting stands for; the environment names the own one. -/
def homes (source : SettingsSource) : Homes :=
  ⟨(source.environment.lookup "HOME".toList).getD source.home.toText, source.users⟩

/-- The settings file of a project. -/
def projectFile (root : Path) : Path :=
  root.child "typelink.yaml".toList

/-- The reason given for a document that is no mapping. -/
def notAMapping : Text := "top level must be a mapping".toList

/-- The fields in a settings file; a document without content has none. -/
def fieldsOf (path : Path) (supply : Yaml.Supply) : Except LoadFault Fields :=
  let malformed (reason : Text) : LoadFault :=
    .failure (.malformed (.str path.toText) (.str reason))
  match Yaml.parse supply with
  | .error .malformed => .error (malformed Yaml.Fault.malformed.message)
  | .error fault => .error (.document fault)
  | .ok value =>
      match value.fields? with
      | some fields => .ok fields
      | none => if value.isEmpty then .ok [] else .error (malformed notAMapping)

/-- The fields of a settings file; a file that is not there has none. -/
def fileFields (source : SettingsSource) (path : Path) : Except LoadFault Fields :=
  if source.tree.holds source.here path then
    match source.tree.read source.here path with
    | .error fault => .error (.unreadable path fault)
    | .ok bytes => fieldsOf path (.ofBytes bytes)
  else
    .ok []

end SettingsSource

namespace Settings

/-- The names of the sections. -/
def sectionNames : List Scalar :=
  SectionShape.all.map fun shape => .str shape.name

/-- An issue for every key that is no section. -/
def unknownKeys (fields : Fields) : List Issue :=
  (fields.filter fun field => !sectionNames.contains field.1).map fun field =>
    ⟨[.entry field.1], .unknownField, field.2⟩

/-- The first key that is a text with a lone half in it. -/
def brokenKey? (fields : Fields) : Option Scalar :=
  (fields.map Prod.fst).find? fun key =>
    match key with
    | .halved _ => true
    | _ => false

/-- Settings from fields among which there is no unknown key.  A key with a lone half in it is the
only issue there is. -/
def checkAll (homes : Homes) (fields : Fields) : Checked Settings :=
  match ofFields homes fields, brokenKey? fields with
  | .error .homeless, _ => .error .homeless
  | _, some key => Checked.fail .notUnicode (.scalar key)
  | checked, none =>
      match checked, unknownKeys fields with
      | checked, [] => checked
      | .ok _, found => .error (.issues found)
      | .error refusal, found => .error (refusal.both (.issues found))

/-- Whether a key is a text. -/
def isTextKey : Scalar → Bool
  | .str _ | .halved _ => true
  | _ => false

/-- The failure that issues amount to: the first of them is named. -/
def failureOf : List Issue → Failure
  | [] => .invalid (.str []) .null (.str [])
  | issue :: _ => .invalid (.str issue.path) issue.input (.str issue.problem.message)

/-- What a refusal amounts to: the first issue is named, if the value it is about can be shown. -/
def faultOf : Refusal → LoadFault
  | .issues found =>
      if (found.head?.all fun issue => issue.input.isShowable) then .failure (failureOf found)
      else .unshowable
  | .homeless => .homeless

/-- Settings from the merged fields of all sources; the first issue decides the failure. -/
def ofMerged (homes : Homes) (fields : Fields) : Except LoadFault Settings :=
  if fields.all fun field => isTextKey field.1 then
    (checkAll homes fields).mapError faultOf
  else
    .error .keyNotText

/-- The fields of four sources, each over those before it. -/
def mergeSources (home project environment overrides : Fields) : Fields :=
  Fields.merge (Fields.merge home project) (Fields.merge environment overrides)

/-- Whether a key is the name of a section in some letter case. -/
def namesSection (shape : SectionShape) : Scalar → Bool
  | .str key => Text.lower key == shape.name
  | _ => false

/-- Overrides under the names of the sections; of several spellings of a name the first counts. -/
def overridden (overrides : Fields) : Fields :=
  SectionShape.all.filterMap (fun shape =>
    (overrides.find? fun field => namesSection shape field.1).map fun field =>
      (.str shape.name, field.2)) ++
  overrides.filter fun field => !SectionShape.all.any fun shape => namesSection shape field.1

/-- The settings that the four sources of a project make together. -/
def gather (source : SettingsSource) (root : Path) (overrides : Fields) :
    Except LoadFault Settings := do
  let home ← source.fileFields source.homeFile
  let project ← source.fileFields (SettingsSource.projectFile root)
  if Fields.mergesForever [] home project then
    throw .endless
  let environment ← (Environment.sections source.environment).mapError .ofJson
  ofMerged source.homes (mergeSources home project environment (overridden overrides))

/-- The settings for a project: those its sources make, checked again as they are written out. -/
def load (source : SettingsSource) (root : Path) (overrides : Fields) :
    Except LoadFault Settings := do
  let settings ← gather source root overrides
  (check source.homes settings.dump).mapError .unsettled

/-- The directory of generated files of a project; none when it is in a home directory that is not
known. -/
def directory? (settings : Settings) (homes : Homes) (root : Path) : Option Path :=
  ((Path.ofText settings.corpus.directory).expandHome? homes).map root.join

end Settings

end DeclLinker
