import DeclLinker.Text.Case
import DeclLinker.Text.Pieces
import DeclLinker.Value.Json

/-!
# Settings from the environment

A variable named for a section holds the section as JSON; a variable named for a field, with two
underscores between the names, sets that field, and one more name sets an entry of it.  Letter case
does not matter in names.  Lists and dictionaries are written as JSON, anything else as it is.
-/

namespace DeclLinker

/-- A section of the settings: its name and its fields, each with whether it is written as JSON. -/
structure SectionShape where
  name : Text
  fields : List (Text × Bool)

namespace SectionShape

/-- The sections a variable can set. -/
def all : List SectionShape :=
  [⟨"logging".toList, [("level".toList, false), ("outputs".toList, true)]⟩,
    ⟨"corpus".toList,
      [("generated_dir".toList, false), ("plugins_subdir".toList, false),
        ("file_suffix".toList, false), ("excluded_suffixes".toList, true),
        ("banner".toList, false), ("family_prefixes".toList, true)]⟩,
    ⟨"resolve".toList,
      [("extra_builtins".toList, true), ("extra_namespaces".toList, true),
        ("unresolved_report_limit".toList, false)]⟩]

/-- Whether the way to a value ends at a field that is written as JSON. -/
def isJson (shape : SectionShape) : List Text → Bool
  | [name] => shape.fields.contains (name, true)
  | _ => false

/-- The name of the field a key stands for; letter case does not matter. -/
def fieldName (shape : SectionShape) (key : Text) : Text :=
  match shape.fields.find? fun field => field.1 == Text.lower key with
  | some field => field.1
  | none => key

end SectionShape

namespace Environment

/-- What stands between the names in the name of a variable. -/
def separator : Text := ['_', '_']

/-- What the name of every variable starts with. -/
def lead : Text := "typelink__".toList

/-- The assignments under lower-case names; of names that differ in case only, the last counts. -/
def assignments (environment : List (Text × Text)) : Dict Text Text :=
  Dict.ofPairs (environment.map fun (name, value) => (Text.lower name, value))

/-- Fields with a value set behind a way of keys.  Mappings on the way are made; where something
else stands in the way, nothing happens. -/
def setAt : List Text → Value → Fields → Fields
  | [], _, fields => fields
  | [key], value, fields => Dict.put (.str key) value fields
  | key :: next :: way, value, fields =>
      match Dict.get? (.str key) fields with
      | none => Dict.put (.str key) (.dict (setAt (next :: way) value [])) fields
      | some (.dict inner) =>
          Dict.put (.str key) (.dict (setAt (next :: way) value inner)) fields
      | some _ => fields

/-- The value a variable gives to the end of a way; a fault when it should be JSON and is not. -/
def decode (shape : SectionShape) (way : List Text) (value : Text) : Except Json.Fault Value :=
  if shape.isJson way && !value.isEmpty then Json.parse value else .ok (.str value)

/-- One variable put into the fields of a section, if it is for that section. -/
def putVariable (shape : SectionShape) (fields : Fields) (setting : Text × Text) :
    Except Json.Fault Fields :=
  match Text.after? (lead ++ shape.name ++ separator) setting.1 with
  | none => .ok fields
  | some rest =>
      let way := Text.splitAtHits (Text.phrase separator) rest
      (decode shape way setting.2).map fun value => setAt way value fields

/-- The fields that assignments set one by one. -/
def ownFields (shape : SectionShape) (assignments : Dict Text Text) :
    Except Json.Fault Fields :=
  assignments.foldlM (putVariable shape) []

/-- The fields of a section under the names the section knows. -/
def renamed (shape : SectionShape) (fields : Fields) : Fields :=
  Dict.ofPairs (fields.map fun (key, value) => (.str (shape.fieldName key.display), value))

/-- What the environment says about a section: nothing, its fields, or whatever JSON its variable
holds.  The answer is a fault when some JSON cannot be read. -/
def sectionValue? (shape : SectionShape) (assignments : Dict Text Text) :
    Except Json.Fault (Option Value) :=
  match Dict.get? (lead ++ shape.name) assignments with
  | none =>
      (ownFields shape assignments).map fun fields =>
        if fields.isEmpty then none else some (.dict (renamed shape fields))
  | some text =>
      match Json.parse text with
      | .error fault => .error fault
      | .ok (.dict fields) =>
          (ownFields shape assignments).map fun own =>
            some (.dict (renamed shape (Fields.merge fields own)))
      | .ok (.scalar .null) => .ok none
      | .ok value => .ok (some value)

/-- The sections the environment sets, or the first section that cannot be read and why. -/
def sections (environment : List (Text × Text)) : Except (Text × Json.Fault) Fields :=
  SectionShape.all.foldlM
    (fun fields shape =>
      match sectionValue? shape (assignments environment) with
      | .error fault => .error (shape.name, fault)
      | .ok none => .ok fields
      | .ok (some value) => .ok (Dict.put (.str shape.name) value fields))
    []

end Environment

end DeclLinker
