import DeclLinker.Path.Basic
import DeclLinker.Source.Scan

/-!
# Analysed files

An analysis records, before anything is changed, where a file lies, which module tag its name
gives it, what it exports and which placeholders it holds.
-/

namespace DeclLinker

/-- The directory of the corpus a file was found in. -/
inductive Tier where
  | core
  | plugin
  deriving DecidableEq

namespace Tier

/-- The name of a tier. -/
def toText : Tier → Text
  | .core => "core".toList
  | .plugin => "plugin".toList

/-- The tier of a name. -/
def ofText? (text : Text) : Option Tier :=
  [Tier.core, Tier.plugin].find? fun tier => tier.toText == text

end Tier

/-- The module tag of a file: its name up to the first dot, without the first family prefix that
starts it. -/
def moduleTag (families : List Text) (fileName : Text) : Text :=
  let stem := fileName.firstSegment '.'
  (families.findSome? fun family => Text.after? family stem).getD stem

/-- Whether a file name starts with a family prefix. -/
def inFamily (families : List Text) (fileName : Text) : Bool :=
  families.any fun family => family.isPrefixOf fileName

/-- What is known of a file before the pass changes it. -/
structure Analysis where
  path : Path
  tag : Text
  tier : Tier
  exports : List Text
  placeholders : List Placeholder
  deriving DecidableEq

namespace Analysis

/-- The name of the analysed file. -/
def fileName (analysis : Analysis) : Text :=
  analysis.path.name

/-- The analysis of a text found at a path; of repeated exports the first is kept. -/
def ofText (families : List Text) (path : Path) (tier : Tier) (text : Text) : Analysis :=
  let scan := Scan.ofText text
  { path
    tag := moduleTag families path.name
    tier
    exports := scan.exports.eraseDups
    placeholders := scan.placeholders }

end Analysis

end DeclLinker
