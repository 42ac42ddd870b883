import DeclLinker.Index.Basic
import DeclLinker.Source.Analysis

/-!
# Building the index

Files of a family declare `tag.Name` for each of their exports; when two files claim one key, the
one with the smaller path keeps it.  The package registry then fills keys that are still absent from
the first file of the registered name.
-/

namespace DeclLinker.Index

/-- The entry an analysed file makes for one of its exports. -/
def entryOf (analysis : Analysis) (exportName : Text) : Entry :=
  ⟨analysis.path, exportName, analysis.tag⟩

/-- The key of an export under a tag or a package name. -/
def keyOf (scope exportName : Text) : Text :=
  scope ++ '.' :: exportName

/-- One export declared under the file's own tag: the smaller path keeps a contested key. -/
def declare (analysis : Analysis) (entries : Dict Text Entry) (exportName : Text) :
    Dict Text Entry :=
  let key := keyOf analysis.tag exportName
  match Dict.get? key entries with
  | some held =>
      if held.path.le analysis.path then entries
      else Dict.put key (entryOf analysis exportName) entries
  | none => Dict.put key (entryOf analysis exportName) entries

/-- The entries that files of a family declare themselves. -/
def declared (families : List Text) (analyses : List Analysis) : Dict Text Entry :=
  (analyses.filter fun analysis => inFamily families analysis.fileName).foldl
    (fun entries analysis => analysis.exports.foldl (declare analysis) entries) []

/-- One export under a registered package name, unless the key is taken. -/
def fill (package : Text) (analysis : Analysis) (entries : Dict Text Entry)
    (exportName : Text) : Dict Text Entry :=
  let key := keyOf package exportName
  if Dict.has key entries then entries
  else Dict.put key (entryOf analysis exportName) entries

/-- The entries of one registered package, from the first file of the registered name. -/
def register (analyses : List Analysis) (entries : Dict Text Entry) (package : Text × Text) :
    Dict Text Entry :=
  match analyses.find? fun analysis => analysis.fileName == package.2 with
  | none => entries
  | some analysis => analysis.exports.foldl (fill package.1 analysis) entries

/-- The index of a corpus. -/
def build (families : List Text) (packages : Dict Text Text) (analyses : List Analysis) : Index :=
  ⟨packages.foldl (register analyses) (declared families analyses)⟩

/-- How many keys only the registry could fill. -/
def filled (families : List Text) (packages : Dict Text Text) (analyses : List Analysis) : Nat :=
  (build families packages analyses).size - (declared families analyses).length

end DeclLinker.Index
