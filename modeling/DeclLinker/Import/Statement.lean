import DeclLinker.Import.Plan
import DeclLinker.Path.Specifier

/-!
# Import statements

One statement names everything that is imported from one producer, sorted without regard to case and
then by code point.
-/

namespace DeclLinker

namespace ImportSpec

/-- The order of names in a statement. -/
def le (first second : ImportSpec) : Bool :=
  decide (first.exportName.fold < second.exportName.fold) ||
    (first.exportName.fold == second.exportName.fold &&
      Text.le first.exportName second.exportName)

/-- A name as it stands in a statement. -/
def toText (spec : ImportSpec) : Text :=
  match spec.alias? with
  | none => spec.exportName
  | some localName => spec.exportName ++ " as ".toList ++ localName

end ImportSpec

namespace Import

/-- The statement that imports the given names. -/
def statement (specs : List ImportSpec) (specifier : Text) : Text :=
  "import type \x7b ".toList ++
    Text.commaList ((specs.mergeSort ImportSpec.le).map ImportSpec.toText) ++
    " \x7d from \x22".toList ++ specifier ++ "\x22;".toList

/-- The statements of a schedule, one for each producer of which something is imported. -/
def statements (here : Location) (consumer : Path) (suffix : Text) (schedule : Schedule) :
    List Text :=
  (schedule.filter fun pair => !pair.2.isEmpty).map fun (producer, specs) =>
    statement (specs.map Prod.snd) (Path.specifier here consumer producer suffix)

/-- The block of statements between blank lines; empty when there are none. -/
def block (statements : List Text) : Text :=
  if statements.isEmpty then [] else '\n' :: ['\n'].intercalate statements ++ ['\n']

end Import

end DeclLinker
