import DeclLinker.Text.Case

/-!
# Aliases

An imported name that is taken gets an alias: the last dash segment of the producer's tag with its
first letter in upper case, then the name.  When that is taken too, the numbers 2, 3, … are tried.
-/

namespace DeclLinker.Alias

/-- The part of an alias that a module tag gives. -/
def lead (tag : Text) : Text :=
  (tag.lastSegment '-').capitalize

/-- The alias before any number. -/
def base (tag exportName : Text) : Text :=
  lead tag ++ exportName

/-- The candidates in the order in which they are tried. -/
def candidate (base : Text) : Nat → Text
  | 0 => base
  | index + 1 => base ++ Text.ofNat (index + 2)

/-- The first candidate that is not reserved.  One more candidate than there are reserved names
suffices, since the candidates differ. -/
def mint (base : Text) (reserved : List Text) : Text :=
  (((List.range (reserved.length + 1)).map (candidate base)).find? fun name =>
    !reserved.contains name).getD base

end DeclLinker.Alias
