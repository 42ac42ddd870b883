import DeclLinker.Import.Alias
import DeclLinker.Index.Basic

/-!
# Import plans

A plan collects what a file has to import, producer by producer in the order of first use, and the
local names that are taken: those the file exports itself and those already planned.
-/

namespace DeclLinker

/-- An imported name, with the local name it is given when its own is taken. -/
structure ImportSpec where
  exportName : Text
  alias? : Option Text
  deriving DecidableEq

namespace ImportSpec

/-- The name the import binds. -/
def localName (spec : ImportSpec) : Text :=
  spec.alias?.getD spec.exportName

end ImportSpec

/-- What to import: for each producer its specs by exported name. -/
abbrev Schedule := Dict Path (Dict Text ImportSpec)

/-- A schedule and the local names taken so far. -/
structure Plan where
  reserved : List Text
  schedule : Schedule
  deriving DecidableEq

namespace Plan

/-- The plan of a file that has not referred to anything yet. -/
def start (taken : List Text) : Plan :=
  ⟨taken, []⟩

/-- The specs planned for a producer. -/
def specsOf (plan : Plan) (producer : Path) : Dict Text ImportSpec :=
  (Dict.get? producer plan.schedule).getD []

/-- The spec for a declaration that is not planned yet: aliased when its name is taken. -/
def newSpec (plan : Plan) (entry : Entry) : ImportSpec :=
  if plan.reserved.contains entry.exportName then
    ⟨entry.exportName, some (Alias.mint (Alias.base entry.tag entry.exportName) plan.reserved)⟩
  else
    ⟨entry.exportName, none⟩

/-- The plan with a declaration in it. -/
def need (plan : Plan) (entry : Entry) : Plan :=
  let specs := plan.specsOf entry.path
  if Dict.has entry.exportName specs then
    plan
  else
    let spec := plan.newSpec entry
    ⟨spec.localName :: plan.reserved,
      Dict.put entry.path (Dict.put entry.exportName spec specs) plan.schedule⟩

/-- The local name under which a declaration is, or will be, imported. -/
def localName (plan : Plan) (entry : Entry) : Text :=
  ((Dict.get? entry.exportName (plan.specsOf entry.path)).getD (plan.newSpec entry)).localName

end Plan

end DeclLinker
