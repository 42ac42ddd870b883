import DeclLinker.Import.Statement
import DeclLinker.Log.Event
import DeclLinker.Tables

/-!
# Placing blocks after the banner

Imports and hand-written declarations go right behind the banner line.  A file without the banner
line gets them at its top, with a warning.
-/

namespace DeclLinker

/-- A text with a block in it, and whether the banner line was there to put it behind. -/
structure Spliced where
  text : Text
  anchored : Bool
  deriving DecidableEq

namespace Spliced

/-- The block put behind the first banner line, or at the top. -/
def behind (banner block text : Text) : Spliced :=
  let anchor := banner ++ ['\n']
  match Text.cut? anchor text with
  | some (before, rest) => ⟨before ++ anchor ++ block ++ rest, true⟩
  | none => ⟨block ++ text, false⟩

/-- The warning for a missing banner. -/
def events (spliced : Spliced) (banner : Text) : List Event :=
  if spliced.anchored then [] else [.bannerMissing banner]

end Spliced

/-- A text after a stage of the layout: how many blocks the stage added, and its events. -/
structure Placed where
  text : Text
  added : Nat
  events : List Event
  deriving DecidableEq

namespace Placed

/-- The hand-written declarations of a file, unless they are there already. -/
def declarations (tables : Tables) (fileName text : Text) : Placed :=
  match Dict.get? fileName tables.synthetic with
  | none => ⟨text, 0, []⟩
  | some block =>
      if tables.marker.occursIn text then
        ⟨text, 0, []⟩
      else
        let spliced := Spliced.behind tables.banner block text
        ⟨spliced.text, 1, .syntheticInjected fileName :: spliced.events tables.banner⟩

/-- The import statements of a schedule. -/
def imports (here : Location) (banner suffix : Text) (consumer : Path) (schedule : Schedule)
    (text : Text) : Placed :=
  let statements := Import.statements here consumer suffix schedule
  if statements.isEmpty then
    ⟨text, 0, []⟩
  else
    let spliced := Spliced.behind banner (Import.block statements) text
    ⟨spliced.text, statements.length, spliced.events banner⟩

end Placed

end DeclLinker
