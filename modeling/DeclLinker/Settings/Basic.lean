import DeclLinker.Log.Level
import DeclLinker.Tables
import DeclLinker.Value.Basic

/-!
# Settings

The settings of a run: where the log goes, where the generated files are and how they look, and what
extends the built-in tables.  `dump` writes settings out as plain data again.
-/

namespace DeclLinker

/-- How a log output writes its records. -/
inductive LogFormat where
  | json
  | console
  deriving DecidableEq

/-- The name of a log format. -/
def LogFormat.toText : LogFormat → Text
  | .json => "json".toList
  | .console => "console".toList

/-- One place the log goes to. -/
structure LogOutput where
  format : LogFormat
  destination : Text
  level? : Option Level
  deriving DecidableEq

/-- The log: its threshold and its outputs. -/
structure LogSettings where
  level : Level
  outputs : List LogOutput
  deriving DecidableEq

/-- The generated files. -/
structure CorpusSettings where
  directory : Text
  plugins : Text
  suffix : Text
  excluded : List Text
  banner : Text
  families : List Text
  deriving DecidableEq

/-- Extensions of the tables, and how many unresolved references a report lists. -/
structure ResolveSettings where
  builtins : Dict Text Text
  packages : Dict Text Text
  limit : Nat
  deriving DecidableEq

/-- All settings. -/
structure Settings where
  logging : LogSettings
  corpus : CorpusSettings
  resolve : ResolveSettings
  deriving DecidableEq

namespace LogOutput

/-- Console lines on standard error, at the level of the log. -/
def default : LogOutput := ⟨.console, "stderr".toList, none⟩

/-- An output as plain data. -/
def dump (output : LogOutput) : Value :=
  Value.record
    [("format".toList, Value.str output.format.toText),
      ("destination".toList, Value.str output.destination),
      ("level".toList,
        match output.level? with
        | some level => Value.str level.setting
        | none => Value.null)]

end LogOutput

namespace LogSettings

/-- Warnings on standard error. -/
def default : LogSettings := ⟨.warning, [LogOutput.default]⟩

/-- Log settings as plain data. -/
def dump (settings : LogSettings) : Value :=
  Value.record
    [("level".toList, Value.str settings.level.setting),
      ("outputs".toList, .list (settings.outputs.map LogOutput.dump))]

end LogSettings

/-- Texts as plain data. -/
def Value.texts (items : List Text) : Value :=
  .list (items.map Value.str)

/-- A dictionary of texts as plain data. -/
def Value.textDict (dict : Dict Text Text) : Value :=
  .record (dict.map fun (key, text) => (key, Value.str text))

namespace CorpusSettings

/-- The layout the generator leaves. -/
def default : CorpusSettings :=
  { directory := "src/generated".toList
    plugins := "plugins".toList
    suffix := ".ts".toList
    excluded := [".zod.ts".toList]
    banner := Tables.defaultBanner
    families := Tables.defaultFamilies }

/-- Corpus settings as plain data. -/
def dump (settings : CorpusSettings) : Value :=
  Value.record
    [("generated_dir".toList, Value.str settings.directory),
      ("plugins_subdir".toList, Value.str settings.plugins),
      ("file_suffix".toList, Value.str settings.suffix),
      ("excluded_suffixes".toList, Value.texts settings.excluded),
      ("banner".toList, Value.str settings.banner),
      ("family_prefixes".toList, Value.texts settings.families)]

end CorpusSettings

namespace ResolveSettings

/-- No extensions, and reports of twenty references. -/
def default : ResolveSettings := ⟨[], [], 20⟩

/-- Resolve settings as plain data. -/
def dump (settings : ResolveSettings) : Value :=
  Value.record
    [("extra_builtins".toList, Value.textDict settings.builtins),
      ("extra_namespaces".toList, Value.textDict settings.packages),
      ("unresolved_report_limit".toList, Value.int settings.limit)]

end ResolveSettings

namespace Settings

/-- The settings without configuration. -/
def default : Settings :=
  ⟨LogSettings.default, CorpusSettings.default, ResolveSettings.default⟩

/-- Settings as plain data. -/
def dump (settings : Settings) : Value :=
  Value.record
    [("logging".toList, settings.logging.dump),
      ("corpus".toList, settings.corpus.dump),
      ("resolve".toList, settings.resolve.dump)]

/-- The tables under the settings. -/
def tables (settings : Settings) : Tables :=
  Tables.extended settings.corpus.banner settings.corpus.families settings.resolve.builtins
    settings.resolve.packages

end Settings

end DeclLinker
