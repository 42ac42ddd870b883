import DeclLinker.Dict
import DeclLinker.Path.Basic

/-!
# Home directories

A tilde as the first component of a relative path stands for the home directory of the user, and a
tilde before a name for that of the user of that name.
-/

namespace DeclLinker

/-- What is known of home directories: the own one, and those of users by name. -/
structure Homes where
  own : Text
  others : Dict Text Text

namespace Homes

/-- The home directory as it is noted for a user; the empty name stands for the own one. -/
def noted? (homes : Homes) (name : Text) : Option Text :=
  if name.isEmpty then some homes.own else Dict.get? name homes.others

/-- The text without the slashes at its end. -/
def dropSlashes (text : Text) : Text :=
  (text.reverse.dropWhile fun char => char == '/').reverse

/-- The home directory of a user.  One that is only slashes is the top; one that itself starts with
a tilde is none. -/
def directory? (homes : Homes) (name : Text) : Option Path :=
  match (homes.noted? name).map dropSlashes with
  | none => none
  | some [] => some ⟨.slash, []⟩
  | some ('~' :: _) => none
  | some text => some (Path.ofText text)

end Homes

/-- The path with a tilde component at its start replaced by the home directory it stands for; none
when that is not known. -/
def Path.expandHome? (path : Path) (homes : Homes) : Option Path :=
  match path.root, path.parts with
  | .relative, ('~' :: name) :: rest =>
      (homes.directory? name).map fun home => ⟨home.root, home.parts ++ rest⟩
  | _, _ => some path

end DeclLinker
